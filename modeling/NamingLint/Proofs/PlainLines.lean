import Mathlib.Data.List.Basic
import NamingLint.Proofs.DisabledRules
import NamingLint.Proofs.NamingReports
import NamingLint.Proofs.PrintedLines

/-!
Lines of the plain report read back from their right ends. Message and rule are the same in every
line of a check, so the file and the position stand before a known text, and a number at the end of
a text ends where its digits do. The name of the file is written as it is: a line feed in it breaks
the line, and then two lines can be taken for the reports of two files.
-/

namespace NamingLint

namespace Report

/-- The number at the end of a text and what stands before the colon that precedes it. -/
def numberAtEnd? (text : List Char) : Option (List Char × Nat) :=
  match text.reverse.dropWhile Char.isDigit with
  | ':' :: before =>
      some (before.reverse, Nat.ofDigitChars 10 (text.reverse.takeWhile Char.isDigit).reverse 0)
  | _ => none

/-- What a line with the given message and rule says of the place: file, line and column. -/
def placeOf? (message rule : String) (line : List Char) : Option (String × Nat × Nat) := do
  let place ← (": " ++ message ++ " (" ++ rule ++ ")").toList.isSuffixOf? line
  let (rest, column) ← numberAtEnd? place
  let (file, number) ← numberAtEnd? rest
  return (String.ofList file, number, column)

theorem numberAtEnd?_append (before : List Char) (n : Nat) :
    numberAtEnd? (before ++ ':' :: Nat.toDigits 10 n) = some (before, n) := by
  have hdigits : ∀ c ∈ (Nat.toDigits 10 n).reverse, c.isDigit = true := fun c hc =>
    Nat.isDigit_of_mem_toDigits (by omega) (by omega) (List.mem_reverse.mp hc)
  have hreverse : (before ++ ':' :: Nat.toDigits 10 n).reverse =
      (Nat.toDigits 10 n).reverse ++ ':' :: before.reverse := by simp
  have hcolon : (':').isDigit = false := rfl
  simp only [numberAtEnd?, hreverse, List.dropWhile_append_of_pos hdigits,
    List.takeWhile_append_of_pos hdigits, List.dropWhile_cons, List.takeWhile_cons, hcolon,
    Bool.false_eq_true, if_false, List.append_nil, List.reverse_reverse,
    Nat.ofDigitChars_ten_toDigits]

theorem toList_line (v : Violation) :
    v.line.toList =
      ((v.file.toList ++ ':' :: Nat.toDigits 10 v.position.line.toNat) ++
        ':' :: Nat.toDigits 10 v.position.column.toNat) ++
          (": " ++ v.message ++ " (" ++ v.rule.display ++ ")").toList := by
  have hnumber (n : UInt32) : (toString n).toList = Nat.toDigits 10 n.toNat := by
    change n.toNat.repr.toList = _
    rw [Nat.toList_repr]
  simp [Violation.line, hnumber]

theorem placeOf?_line (v : Violation) :
    placeOf? v.message v.rule.display v.line.toList =
      some (v.file, v.position.line.toNat, v.position.column.toNat) := by
  have hsuffix := List.isSuffixOf?_eq_some_iff_append_eq.mpr (toList_line v).symm
  simp only [placeOf?, hsuffix, Option.bind_eq_bind, Option.bind_some, numberAtEnd?_append,
    String.ofList_toList]
  rfl

/-- Numbers and colons bring no line feed into a line. -/
theorem count_line (v : Violation) :
    v.line.toList.count '\n' = v.file.toList.count '\n' +
      (": " ++ v.message ++ " (" ++ v.rule.display ++ ")").toList.count '\n' := by
  have hdigits (n : Nat) : (Nat.toDigits 10 n).count '\n' = 0 := by
    refine List.count_eq_zero.mpr fun hmem => ?_
    cases Nat.isDigit_of_mem_toDigits (by omega) (by omega) hmem
  have hcolon (n : Nat) : (':' :: Nat.toDigits 10 n).count '\n' = 0 := by
    rw [List.count_cons_of_ne (by decide), hdigits]
  rw [toList_line, List.count_append, List.count_append, List.count_append, hcolon, hcolon]
  rfl

end Report

namespace FunctionName

theorem exists_of_mem_block {tree : Syntax.Node} {d : Diagnostic} (h : d ∈ rule.block tree) :
    ∃ f, d = diagnosticOf f := by
  obtain ⟨found, -, hfound⟩ := reported_visitAll tree.nodes
  rw [← rule.diagnostics_check_eq_block, Rule.check, hfound] at h
  obtain ⟨p, -, hp⟩ := List.mem_map.mp h
  exact ⟨p.2, hp.symm⟩

/-- Violations of the naming rule differ in their places only. -/
structure Reports (v : Violation) : Prop where
  rule : v.rule = ruleId
  message : v.message = FunctionName.message
  autoCorrectable : v.autoCorrectable = false

theorem reports_of_mem_violations {config : Config} {file : SourceFile} {v : Violation}
    (h : v ∈ (Engine.ofSets RuleSet.shipped config).violations file) : Reports v := by
  obtain ⟨d, hd, rfl⟩ := List.mem_map.mp h
  rw [Engine.diagnostics_eq_blocks] at hd
  obtain ⟨block, hblock, hd⟩ := List.mem_flatten.mp hd
  obtain ⟨shipped, hshipped, rfl⟩ := List.mem_map.mp hblock
  rw [Engine.rules_ofSets] at hshipped
  have hmem : shipped ∈ RuleSet.shipped.flatMap RuleSet.rules := List.mem_of_mem_filter hshipped
  obtain rfl : shipped = FunctionName.rule := List.mem_singleton.mp hmem
  obtain ⟨f, rfl⟩ := exists_of_mem_block hd
  exact ⟨rfl, rfl, rfl⟩

namespace Reports

variable {v w : Violation}

theorem placeOf?_line (h : Reports v) :
    Report.placeOf? FunctionName.message ruleId.display v.line.toList =
      some (v.file, v.position.line.toNat, v.position.column.toNat) := by
  rw [← h.message, ← h.rule]
  exact Report.placeOf?_line v

theorem eq_of_line_eq (hv : Reports v) (hw : Reports w) (h : v.line.toList = w.line.toList) :
    v = w := by
  have hplace := hv.placeOf?_line
  rw [h, hw.placeOf?_line] at hplace
  simp only [Option.some.injEq, Prod.mk.injEq, UInt32.toNat_inj] at hplace
  obtain ⟨hfile, hline, hcolumn⟩ := hplace
  obtain ⟨file, ⟨line, column⟩, rule, message, autoCorrectable⟩ := v
  obtain ⟨file', ⟨line', column'⟩, rule', message', autoCorrectable'⟩ := w
  obtain ⟨rfl, rfl, rfl⟩ := hv
  obtain ⟨rfl, rfl, rfl⟩ := hw
  simp_all

/-- The only line feeds of a line are those in the name of its file. -/
theorem count_line (h : Reports v) : v.line.toList.count '\n' = v.file.toList.count '\n' := by
  rw [Report.count_line, h.message, h.rule, Nat.add_eq_left]
  simp only [String.toList_append, List.count_append, RuleId.display]
  decide +kernel

end Reports
end FunctionName

namespace Command

open FunctionName (Reports)

variable {fs : FileSystem} {arguments : List NativeText} {violations : List Violation}

/-- The check is accepted and prints plain lines, and these are the violations in the files that it
collects. -/
def PlainCheck (fs : FileSystem) (arguments : List NativeText) (violations : List Violation) :
    Prop :=
  ∃ options config files, parse arguments = .ok (.check options) ∧ options.format = .plain ∧
    loadConfig fs options.config options.disable = .ok config ∧
    Discovery.files fs config (rootsOf options) = .ok files ∧
    violations = violationsOf fs config files

/-- File, line and column as they are read off every line of an output. -/
def placesOf? (output : String) : Option (List (String × Nat × Nat)) :=
  (Text.printedLines output.toList).mapM
    (Report.placeOf? FunctionName.message FunctionName.ruleId.display)

theorem PlainCheck.output (h : PlainCheck fs arguments violations) (environment : Environment) :
    (run fs environment arguments).output = lines (violations.map Violation.line) := by
  obtain ⟨options, config, files, hparse, hformat, hconfig, hfiles, rfl⟩ := h
  rw [(run_of_files environment hparse hconfig hfiles).output, hformat, lines, List.map_map]
  rfl

theorem PlainCheck.reports (h : PlainCheck fs arguments violations) :
    ∀ v ∈ violations, Reports v := by
  obtain ⟨options, config, files, -, -, -, -, rfl⟩ := h
  intro v hv
  obtain ⟨path, -, hv⟩ := List.mem_flatMap.mp hv
  unfold blockAt block at hv
  split at hv
  · exact FunctionName.reports_of_mem_violations hv
  · cases hv

theorem count_flatMap_line (h : ∀ v ∈ violations, Reports v) :
    ((violations.map Violation.line).flatMap String.toList).count '\n' =
      (violations.flatMap fun v => v.file.toList).count '\n' := by
  induction violations with
  | nil => rfl
  | cons v rest ih =>
      obtain ⟨hv, hrest⟩ := List.forall_mem_cons.mp h
      rw [List.map_cons, List.flatMap_cons, List.flatMap_cons, List.count_append,
        List.count_append, hv.count_line, ih hrest]

theorem unbroken_iff (h : ∀ v ∈ violations, Reports v) :
    (∀ text ∈ violations.map Violation.line, '\n' ∉ text.toList) ↔
      ∀ v ∈ violations, '\n' ∉ v.file.toList := by
  rw [List.forall_mem_map]
  refine forall₂_congr fun v hv => ?_
  rw [← List.count_eq_zero, ← List.count_eq_zero, (h v hv).count_line]

theorem mapM_placeOf? (h : ∀ v ∈ violations, Reports v) :
    ((violations.map Violation.line).map String.toList).mapM
        (Report.placeOf? FunctionName.message FunctionName.ruleId.display) =
      some (violations.map fun v => (v.file, v.position.line.toNat, v.position.column.toNat)) := by
  induction violations with
  | nil => rfl
  | cons v rest ih =>
      obtain ⟨hv, hrest⟩ := List.forall_mem_cons.mp h
      rw [List.map_cons, List.map_cons, List.mapM_cons, hv.placeOf?_line, ih hrest]
      rfl

theorem eq_of_lines_eq {others : List Violation} (h : ∀ v ∈ violations, Reports v)
    (h' : ∀ v ∈ others, Reports v)
    (heq : (violations.map Violation.line).map String.toList =
      (others.map Violation.line).map String.toList) : violations = others := by
  induction violations generalizing others with
  | nil => simpa using heq.symm
  | cons v rest ih =>
      cases others with
      | nil => cases heq
      | cons w others =>
          obtain ⟨hv, hrest⟩ := List.forall_mem_cons.mp h
          obtain ⟨hw, hothers⟩ := List.forall_mem_cons.mp h'
          obtain ⟨hline, hlines⟩ := List.cons.inj heq
          rw [hv.eq_of_line_eq hw hline, ih hrest hothers hlines]

/-- The output has a line for each violation and a further one for each line feed in the name of a
file. When there is none, every line gives the place of its violation back, and no other violations
without line feeds are printed alike. -/
theorem plain_faithful (h : PlainCheck fs arguments violations) (environment : Environment) :
    (Text.printedLines (run fs environment arguments).output.toList).length =
        violations.length + (violations.flatMap fun v => v.file.toList).count '\n' ∧
    (Text.printedLines (run fs environment arguments).output.toList =
        violations.map (fun v => v.line.toList) ↔ ∀ v ∈ violations, '\n' ∉ v.file.toList) ∧
    ((∀ v ∈ violations, '\n' ∉ v.file.toList) →
      placesOf? (run fs environment arguments).output =
          some (violations.map fun v =>
            (v.file, v.position.line.toNat, v.position.column.toNat)) ∧
        ∀ fs' environment' arguments' others, PlainCheck fs' arguments' others →
          (∀ v ∈ others, '\n' ∉ v.file.toList) →
          (run fs' environment' arguments').output = (run fs environment arguments).output →
          others = violations) := by
  have hunbroken := unbroken_iff h.reports
  rw [h.output environment]
  refine ⟨?_, ?_, fun hnames => ⟨?_, ?_⟩⟩
  · rw [Text.length_printedLines, Text.count_lines, List.length_map, count_flatMap_line h.reports]
  · rw [← hunbroken, ← Text.printedLines_lines_iff, List.map_map]
    rfl
  · rw [placesOf?, Text.printedLines_lines (hunbroken.mpr hnames), mapM_placeOf? h.reports]
  · intro fs' environment' arguments' others h' hnames' heq
    rw [h'.output environment'] at heq
    have hlines := congrArg (fun output => Text.printedLines output.toList) heq
    simp only [Text.printedLines_lines (hunbroken.mpr hnames),
      Text.printedLines_lines ((unbroken_iff h'.reports).mpr hnames')] at hlines
    exact eq_of_lines_eq h'.reports h.reports hlines

/-- A violation under a name that begins with the line of another one is printed like both. -/
theorem plain_forged (v w : Violation) :
    Report.plain [{ w with file := v.line ++ "\n" ++ w.file }] = Report.plain [v, w] := by
  simp [Report.plain, Violation.line, String.append_assoc]

/-- A working directory with files of the given names, each with a function of a bad name in it. -/
def functionFiles (names : List NativeText) : FileSystem where
  root := [("work", .directory (names.map fun name =>
    (name, .file (NativeText.ofText "fun Foo() {}").octets)))]
  workingDirectory := ["work"]

def functionReport (name : String) : Violation where
  file := name
  position := ⟨1, 5⟩
  rule := FunctionName.ruleId
  message := FunctionName.message
  autoCorrectable := false

/-- The places of two files are read off the report of a check. -/
theorem plain_twoFiles :
    PlainCheck (functionFiles ["A.kt", "B.kt"]) ["check"]
        [functionReport "A.kt", functionReport "B.kt"] ∧
      placesOf? (run (functionFiles ["A.kt", "B.kt"]) [] ["check"]).output =
        some [("A.kt", 1, 5), ("B.kt", 1, 5)] := by
  have hle : Path.le ⟨"./A.kt"⟩ ⟨"./B.kt"⟩ = true := by decide +kernel
  have hdiff : Path.same ⟨"./A.kt"⟩ ⟨"./B.kt"⟩ = false := by decide +kernel
  have hfiles : Discovery.files (functionFiles ["A.kt", "B.kt"]) {} [⟨"."⟩] =
      .ok [⟨"./A.kt"⟩, ⟨"./B.kt"⟩] := by
    refine Discovery.files_eq_ok.mpr ⟨[[⟨"./A.kt"⟩, ⟨"./B.kt"⟩]], rfl, ?_⟩
    simp [Discovery.arrange, Discovery.dropRepeats, List.mergeSort, hle, hdiff]
  have hcheck : PlainCheck (functionFiles ["A.kt", "B.kt"]) ["check"]
      [functionReport "A.kt", functionReport "B.kt"] :=
    ⟨{}, {}, _, rfl, rfl, rfl, hfiles, by decide +kernel⟩
  have hunbroken : ∀ v ∈ [functionReport "A.kt", functionReport "B.kt"],
      '\n' ∉ v.file.toList := by decide +kernel
  obtain ⟨-, -, hread⟩ := plain_faithful hcheck []
  exact ⟨hcheck, (hread hunbroken).1⟩

/-- The one violation in a file with a line feed in its name is printed on two lines. -/
theorem line_broken :
    PlainCheck (functionFiles ["A\nB.kt"]) ["check"] [functionReport "A\nB.kt"] ∧
      (Text.printedLines (run (functionFiles ["A\nB.kt"]) [] ["check"]).output.toList).length =
        2 := by
  have hfiles : Discovery.files (functionFiles ["A\nB.kt"]) {} [⟨"."⟩] = .ok [⟨"./A\nB.kt"⟩] := by
    refine Discovery.files_eq_ok.mpr ⟨[[⟨"./A\nB.kt"⟩]], rfl, ?_⟩
    simp [Discovery.arrange, Discovery.dropRepeats]
  have hcheck : PlainCheck (functionFiles ["A\nB.kt"]) ["check"] [functionReport "A\nB.kt"] :=
    ⟨{}, {}, _, rfl, rfl, rfl, hfiles, by decide +kernel⟩
  refine ⟨hcheck, ?_⟩
  rw [hcheck.output [], Text.length_printedLines, Text.count_lines,
    count_flatMap_line hcheck.reports]
  decide +kernel

end Command
end NamingLint
