import Mathlib.Data.List.Induction
import NamingLint.Proofs.PatternLanguage
import NamingLint.Proofs.Preorder
import NamingLint.Proofs.RuleRuns
import NamingLint.Rule.FunctionName

/-!
What the naming rule reports of a tree, said without its state and its traversal: positions in the
preorder, and the imports that stand before each. Names of test functions are taken as the pattern
accepts them; ordinary names are described character by character.
-/

namespace NamingLint.FunctionName

open Syntax Text

/-- A lower-case letter and then letters and digits, all of them of the basic Latin alphabet. -/
def OrdinaryName (name : String) : Prop :=
  ∃ first rest, name.toList = first :: rest ∧ ('a' ≤ first ∧ first ≤ 'z') ∧
    ∀ c ∈ rest, ('a' ≤ c ∧ c ≤ 'z') ∨ ('A' ≤ c ∧ c ≤ 'Z') ∨ ('0' ≤ c ∧ c ≤ '9')

def IsTestImport (node : Node) : Prop :=
  ∃ path, node.kind = .importDirective (some path) ∧
    ∃ framework ∈ ["org.junit", "org.testng", "kotlin.test"],
      framework.toList <+: path.toList

/-- Position `i` of a listing holds a function whose name nothing excuses. Only the imports at
smaller positions count. -/
structure Misnamed (nodes : List Node) (i : Nat) (f : FunctionDeclaration) : Prop where
  isFunction : ∃ node, nodes[i]? = some node ∧ node.kind = .function f
  notFactory : ¬ ∃ type, f.returnType = some type ∧ type.text = f.nameText
  notOrdinary : ¬ OrdinaryName f.nameText
  notTestName : (¬ ∃ node ∈ nodes.take i, IsTestImport node) ∨ isTestName f.nameText = false

def diagnosticOf (f : FunctionDeclaration) : Diagnostic where
  rule := ⟨"experimental", "function-naming"⟩
  offset :=
    match f.name with
    | some token => token.offset
    | none => 1
  message :=
    "Function name should start with a lowercase letter (except factory methods) and use camel case"
  autoCorrectable := false

theorem isLower_iff (c : Char) : isLower c = true ↔ 'a' ≤ c ∧ c ≤ 'z' := by
  simp [isLower]

theorem isLetterOrDigit_iff (c : Char) :
    isLetterOrDigit c = true ↔
      ('a' ≤ c ∧ c ≤ 'z') ∨ ('A' ≤ c ∧ c ≤ 'Z') ∨ ('0' ≤ c ∧ c ≤ '9') := by
  simp [isLetterOrDigit, isLower_iff, or_assoc]

theorem isOrdinaryName_iff (name : String) : isOrdinaryName name = true ↔ OrdinaryName name := by
  rw [isOrdinaryName, Pattern.accepts_iff_matches, ordinaryName, Pattern.matches_word]
  simp only [isLower_iff, isLetterOrDigit_iff]
  rfl

theorem isFactory_iff (f : FunctionDeclaration) :
    isFactory f = true ↔ ∃ type, f.returnType = some type ∧ type.text = f.nameText := by
  simp [isFactory, FunctionDeclaration.returnText?]

theorem isTestImport_iff (path : String) :
    isTestImport path = true ↔
      ∃ framework ∈ ["org.junit", "org.testng", "kotlin.test"],
        framework.toList <+: path.toList := by
  simp [isTestImport, testFrameworks]

theorem isTest_visit (node : Node) (state : FileState) :
    (visit node state).state.isTest = true ↔ state.isTest = true ∨ IsTestImport node := by
  unfold visit IsTestImport
  cases hk : node.kind with
  | file | function _ | identifier _ | other _ => simp
  | importDirective path =>
      cases state with
      | test => simp [FileState.observe, FileState.isTest]
      | ordinary =>
          cases path with
          | none => simp [FileState.observe, FileState.isTest]
          | some path =>
              by_cases h : isTestImport path = true
              · simpa [FileState.observe, FileState.isTest, h] using (isTestImport_iff path).mp h
              · simpa [FileState.observe, FileState.isTest, h] using
                  mt (isTestImport_iff path).mpr h

/-- What the rule knows of a file when it has seen some of its nodes. -/
def stateAfter (nodes : List Node) : FileState :=
  rule.stateAfter rule.initial nodes

theorem stateAfter_concat (nodes : List Node) (node : Node) :
    stateAfter (nodes ++ [node]) = (visit node (stateAfter nodes)).state :=
  rule.stateAfter_append rule.initial nodes [node]

theorem isTest_stateAfter (nodes : List Node) :
    (stateAfter nodes).isTest = true ↔ ∃ node ∈ nodes, IsTestImport node := by
  induction nodes using List.reverseRecOn with
  | nil => simp [show stateAfter [] = .ordinary from rfl, FileState.isTest]
  | append_singleton nodes node ih =>
      rw [stateAfter_concat, isTest_visit, ih]
      simp only [List.mem_append, List.mem_singleton, or_and_right, exists_or, exists_eq_left]

/-- The function of a node that is reported in a state. -/
def misnamed? (state : FileState) (node : Node) : Option FunctionDeclaration :=
  node.function?.filter fun f => !isAllowed state f

theorem checkFunction_eq (state : FileState) (f : FunctionDeclaration) :
    checkFunction state f = if isAllowed state f then none else some (diagnosticOf f) := by
  obtain ⟨name, returnType⟩ := f
  cases name <;> rfl

theorem diagnostics_visit (node : Node) (state : FileState) :
    (visit node state).diagnostics = ((misnamed? state node).map diagnosticOf).toList := by
  unfold visit misnamed? Node.function?
  cases node.kind with
  | file | importDirective _ | identifier _ | other _ => rfl
  | function f =>
      cases h : isAllowed state f with
      | true => simp [checkFunction_eq, h]
      | false => simp [checkFunction_eq, h, Option.filter]

theorem function?_eq_some (node : Node) (f : FunctionDeclaration) :
    node.function? = some f ↔ node.kind = .function f := by
  unfold Node.function?
  cases node.kind <;> simp

theorem isAllowed_eq_false (nodes : List Node) (f : FunctionDeclaration) :
    isAllowed (stateAfter nodes) f = false ↔
      (¬ ∃ type, f.returnType = some type ∧ type.text = f.nameText) ∧
      ¬ OrdinaryName f.nameText ∧
      ((¬ ∃ node ∈ nodes, IsTestImport node) ∨ isTestName f.nameText = false) := by
  rw [← isFactory_iff, ← isOrdinaryName_iff, ← isTest_stateAfter]
  simp only [isAllowed, Bool.or_eq_false_iff, Bool.and_eq_false_iff, Bool.not_eq_true]
  tauto

/-- The node after a listing is reported under the state that the listing leaves. -/
theorem misnamed_concat (nodes : List Node) (node : Node) (f : FunctionDeclaration) :
    Misnamed (nodes ++ [node]) nodes.length f ↔ misnamed? (stateAfter nodes) node = some f := by
  have hallowed := isAllowed_eq_false nodes f
  simp only [misnamed?, Option.filter_eq_some_iff, function?_eq_some, Bool.not_eq_eq_eq_not,
    Bool.not_true, hallowed]
  constructor
  · intro h
    obtain ⟨⟨at?, hat, hkind⟩, hfactory, hordinary, htest⟩ := h
    obtain rfl : node = at? := by simpa using hat
    exact ⟨hkind, hfactory, hordinary, by simpa using htest⟩
  · intro h
    obtain ⟨hkind, hfactory, hordinary, htest⟩ := h
    exact ⟨⟨node, by simp, hkind⟩, hfactory, hordinary, by simpa using htest⟩

/-- What stands behind a position has no say in it. -/
theorem misnamed_append (nodes rest : List Node) (i : Nat) (h : i < nodes.length)
    (f : FunctionDeclaration) : Misnamed (nodes ++ rest) i f ↔ Misnamed nodes i f := by
  have hat : (nodes ++ rest)[i]? = nodes[i]? := List.getElem?_append_left h
  have htake : (nodes ++ rest).take i = nodes.take i :=
    List.take_append_of_le_length (Nat.le_of_lt h)
  constructor
  · intro h
    obtain ⟨hfun, hfactory, hordinary, htest⟩ := h
    exact ⟨hat ▸ hfun, hfactory, hordinary, htake ▸ htest⟩
  · intro h
    obtain ⟨hfun, hfactory, hordinary, htest⟩ := h
    exact ⟨hat ▸ hfun, hfactory, hordinary, htake ▸ htest⟩

theorem Misnamed.lt_length {nodes : List Node} {i : Nat} {f : FunctionDeclaration}
    (h : Misnamed nodes i f) : i < nodes.length := by
  obtain ⟨node, hnode, _⟩ := h.isFunction
  exact (List.getElem?_eq_some_iff.mp hnode).1

/-- The reported positions of a listing, with the functions that stand there. -/
structure Reported (nodes : List Node) (found : List (Nat × FunctionDeclaration)) : Prop where
  ordered : found.Pairwise fun a b => a.1 < b.1
  positions : ∀ i f, (i, f) ∈ found ↔ Misnamed nodes i f

theorem reported_concat {nodes : List Node} {found : List (Nat × FunctionDeclaration)}
    (h : Reported nodes found) (node : Node) :
    Reported (nodes ++ [node])
      (found ++ ((misnamed? (stateAfter nodes) node).map fun f => (nodes.length, f)).toList) := by
  have hlt (p) (hp : p ∈ found) : p.1 < nodes.length := ((h.positions p.1 p.2).mp hp).lt_length
  constructor
  · refine List.pairwise_append.mpr ⟨h.ordered, ?_, ?_⟩
    · cases misnamed? (stateAfter nodes) node <;> simp
    · intro a ha b hb
      obtain ⟨f, -, rfl⟩ : ∃ f, _ = some f ∧ (nodes.length, f) = b := by simpa using hb
      exact hlt a ha
  · intro i f
    rw [List.mem_append, h.positions]
    rcases Nat.lt_trichotomy i nodes.length with hi | rfl | hi
    · rw [misnamed_append nodes [node] i hi]
      simp only [Option.mem_toList, Option.map_eq_some_iff, Prod.mk.injEq, or_iff_left_iff_imp]
      intro h
      obtain ⟨g, -, heq, -⟩ := h
      omega
    · rw [misnamed_concat]
      have hold : ¬ Misnamed nodes nodes.length f := fun hm => Nat.lt_irrefl _ hm.lt_length
      simp [hold]
    · have hnew : ¬ Misnamed (nodes ++ [node]) i f := fun hm => by
        have := hm.lt_length
        simp only [List.length_append, List.length_singleton] at this
        omega
      have hold : ¬ Misnamed nodes i f := fun hm => Nat.lt_asymm hi hm.lt_length
      simp only [hold, hnew, false_or, iff_false]
      simp only [Option.mem_toList, Option.map_eq_some_iff, Prod.mk.injEq]
      intro h
      obtain ⟨g, -, heq, -⟩ := h
      omega

theorem reported_visitAll (nodes : List Node) :
    ∃ found, Reported nodes found ∧
      (rule.visitAll rule.initial nodes).diagnostics = found.map fun p => diagnosticOf p.2 := by
  induction nodes using List.reverseRecOn with
  | nil =>
      refine ⟨[], ⟨.nil, fun i f => ⟨nofun, fun h => absurd h.lt_length (Nat.not_lt_zero i)⟩⟩, rfl⟩
  | append_singleton nodes node ih =>
      obtain ⟨found, hfound, heq⟩ := ih
      refine ⟨_, reported_concat hfound node, ?_⟩
      rw [Rule.diagnostics_visitAll_concat, heq, List.map_append]
      refine congrArg (_ ++ ·) ((diagnostics_visit node (stateAfter nodes)).trans ?_)
      cases misnamed? (stateAfter nodes) node <;> rfl

/-- The diagnostics of a tree are those of its misnamed functions, one for each, in document
order. -/
theorem diagnostics_check (tree : Node) :
    ∃ found : List (Nat × FunctionDeclaration),
      found.Pairwise (fun a b => a.1 < b.1) ∧
      (∀ i f, (i, f) ∈ found ↔ Misnamed tree.preorder i f) ∧
      (rule.check tree).diagnostics = found.map fun p => diagnosticOf p.2 := by
  obtain ⟨found, hfound, heq⟩ := reported_visitAll tree.preorder
  refine ⟨found, hfound.ordered, hfound.positions, ?_⟩
  rw [Rule.check, nodes_eq_preorder]
  exact heq

end NamingLint.FunctionName
