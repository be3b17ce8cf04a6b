import NamingLint.Proofs.DeclarationParts
import NamingLint.Proofs.TextualOrder

/-!
Functions without a name. No grammar of names has the empty text, so only the exemption of factory
methods can excuse one, and it does when the declared return type is written as the empty text too.
Which malformed sources have such a type in their tree is left to the parser.
-/

namespace NamingLint.FunctionName

open Syntax Kotlin

/-- The name is absent, or there but empty. -/
def Nameless (f : FunctionDeclaration) : Prop :=
  f.name = none ∨ ∃ offset, f.name = some ⟨"", offset⟩

/-- A return type is declared and is written as the empty text. -/
def BlankType (f : FunctionDeclaration) : Prop :=
  ∃ offset, f.returnType = some ⟨"", offset⟩

variable {f : FunctionDeclaration}

theorem Nameless.nameText_eq (h : Nameless f) : f.nameText = "" := by
  unfold FunctionDeclaration.nameText
  rcases h with h | ⟨offset, h⟩ <;> rw [h] <;> rfl

theorem not_ordinaryName_empty : ¬ OrdinaryName "" := by
  rintro ⟨first, rest, heq, -, -⟩
  cases heq

theorem isTestName_empty : isTestName "" = false := by decide

theorem exists_returnType_iff (f : FunctionDeclaration) :
    (∃ type, f.returnType = some type ∧ type.text = "") ↔ BlankType f := by
  constructor
  · rintro ⟨⟨text, offset⟩, htype, rfl⟩
    exact ⟨offset, htype⟩
  · rintro ⟨offset, htype⟩
    exact ⟨⟨"", offset⟩, htype, rfl⟩

/-- Neither kind of file excuses the missing name. -/
theorem Nameless.isAllowed_iff (h : Nameless f) (state : FileState) :
    isAllowed state f = true ↔ BlankType f := by
  have hordinary : isOrdinaryName "" = false :=
    Bool.eq_false_iff.mpr (mt (isOrdinaryName_iff "").mp not_ordinaryName_empty)
  rw [isAllowed, h.nameText_eq, hordinary, isTestName_empty, Bool.and_false, Bool.or_false,
    Bool.or_false, isFactory_iff, h.nameText_eq]
  exact exists_returnType_iff f

theorem Nameless.checkFunction_eq_some (h : Nameless f) (hblank : ¬ BlankType f)
    (state : FileState) : checkFunction state f = some (diagnosticOf f) := by
  rw [checkFunction_eq, if_neg (mt (h.isAllowed_iff state).mp hblank)]

theorem Nameless.checkFunction_eq_none (h : Nameless f) (hblank : BlankType f)
    (state : FileState) : checkFunction state f = none := by
  rw [checkFunction_eq, if_pos ((h.isAllowed_iff state).mpr hblank)]

theorem mem_diagnostics_of_emittedAt {tree : Node} {j : Nat} {node : Node} {d : Diagnostic}
    (hnode : tree.nodes[j]? = some node) (h : d ∈ rule.emittedAt tree.nodes j) :
    d ∈ (rule.check tree).diagnostics := by
  obtain ⟨hj, -⟩ := List.getElem?_eq_some_iff.mp hnode
  rw [Rule.check, rule.visitAll_eq_flatMap]
  exact List.mem_flatMap_of_mem (List.mem_range.mpr hj) h

/-- The type of a parsed function is blank where its node covers no text. -/
theorem blankType_functionDeclaration (source : List Char) (children : List Concrete) :
    BlankType (Concrete.functionDeclaration source children) ↔
      ∃ type, Concrete.DeclaredType children type ∧ type.text source = [] := by
  rw [BlankType, Concrete.functionDeclaration_eq]
  simp only [Option.map_eq_some_iff, Concrete.returnType?_eq_some]
  constructor
  · rintro ⟨offset, type, htype, htoken⟩
    refine ⟨type, htype, String.ofList_eq_empty_iff.mp (congrArg Token.text htoken)⟩
  · rintro ⟨type, htype, htext⟩
    exact ⟨_, type, htype, by rw [Concrete.token, htext]⟩

/-- A function without a name is reported under every state and wherever it stands in a tree, at
its name or at the fallback offset, unless its return type is blank; then it never is. In a parsed
file the type is blank when the node of the type covers no text. -/
theorem nameless_reported (h : Nameless f) :
    (¬ BlankType f →
      (∀ state, checkFunction state f = some (diagnosticOf f)) ∧
      ∀ tree : Node, ∀ j node, tree.nodes[j]? = some node → node.kind = .function f →
        rule.emittedAt tree.nodes j = [diagnosticOf f] ∧
        diagnosticOf f ∈ (rule.check tree).diagnostics) ∧
    (BlankType f →
      (∀ state, checkFunction state f = none) ∧
      ∀ tree : Node, ∀ j node, tree.nodes[j]? = some node → node.kind = .function f →
        rule.emittedAt tree.nodes j = []) ∧
    ((diagnosticOf f).offset = match f.name with
      | some token => token.offset
      | none => fallbackOffset) ∧
    ∀ source head children, head.kind = "function_declaration" →
      (Concrete.node head children).nodeKind source = .function f →
      (BlankType f ↔ ∃ type, Concrete.DeclaredType children type ∧ type.text source = []) := by
  refine ⟨fun hblank => ⟨h.checkFunction_eq_some hblank, fun tree j node hnode hf => ?_⟩,
    fun hblank => ⟨h.checkFunction_eq_none hblank, fun tree j node hnode hf => ?_⟩, rfl,
    fun source head children hkind hf => ?_⟩
  · have hemitted : rule.emittedAt tree.nodes j = [diagnosticOf f] := by
      rw [emittedAt_function hnode hf, h.checkFunction_eq_some hblank]
      rfl
    exact ⟨hemitted, mem_diagnostics_of_emittedAt hnode (by simp [hemitted])⟩
  · rw [emittedAt_function hnode hf, h.checkFunction_eq_none hblank]
    rfl
  · rw [Concrete.nodeKind_function source hkind] at hf
    rw [← NodeKind.function.inj hf, blankType_functionDeclaration]

/-- A function in a class of a test file. -/
def inTestClass (f : FunctionDeclaration) : Node :=
  .mk .file 0
    [.mk (.importDirective (some "org.junit.Test")) 0 [],
     .mk (.other "class_body") 22 [.function f 24 []]]

/-- The name is there but empty. -/
def emptyName : FunctionDeclaration where
  name := some ⟨"", 28⟩
  returnType := some ⟨"Unit", 32⟩

/-- An empty name is reported at its place, although the file is a test file. -/
theorem nameless_inTestClass :
    Nameless emptyName ∧ ¬ BlankType emptyName ∧
      rule.emittedAt (inTestClass emptyName).nodes 3 = [diagnosticOf emptyName] ∧
      (diagnosticOf emptyName).offset = 28 := by
  have hnameless : Nameless emptyName := .inr ⟨28, rfl⟩
  have hblank : ¬ BlankType emptyName := by
    rintro ⟨offset, htype⟩
    have htext : "Unit" = "" := congrArg Token.text (Option.some.inj htype)
    exact absurd htext (by decide)
  obtain ⟨hreported, -, hoffset, -⟩ := nameless_reported hnameless
  exact ⟨hnameless, hblank, ((hreported hblank).2 (inTestClass emptyName) 3 _ rfl rfl).1, hoffset⟩

/-- The name is absent and the type is blank. -/
def blankFactory : FunctionDeclaration where
  returnType := some ⟨"", 14⟩

/-- A function without a name passes for a factory method when its return type is blank. -/
theorem blankType_excuses :
    Nameless blankFactory ∧ checkFunction .ordinary blankFactory = none ∧
      checkFunction .test blankFactory = none ∧
      (rule.check (inTestClass blankFactory)).diagnostics = [] := by
  refine ⟨.inl rfl, ?_, ?_, ?_⟩ <;> decide +kernel

end NamingLint.FunctionName
