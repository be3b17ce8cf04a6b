import NamingLint.Proofs.NamingReports

/-!
What an import more does to the reports of the naming rule. A leaf that is put into a tree moves the
nodes behind it by one position and changes nothing else of the listing. The rule only ever gets
more lenient, and what it sees first at the leaf cannot reach back, so a report can only be lost,
and only behind the leaf.
-/

namespace NamingLint

namespace Syntax

/-- The second tree is the first with a leaf put among the children of one of its nodes. The leaf
is in the listing at the given position. -/
inductive WithLeaf (kind : NodeKind) (offset : UInt32) : Nat → Node → Node → Prop where
  | here (parent : NodeKind) (at? : UInt32) (before after : List Node) :
      WithLeaf kind offset ((forestPreorder before).length + 1)
        (.mk parent at? (before ++ after))
        (.mk parent at? (before ++ .mk kind offset [] :: after))
  | inside (parent : NodeKind) (at? : UInt32) (before after : List Node) {i : Nat}
      {child child' : Node} (h : WithLeaf kind offset i child child') :
      WithLeaf kind offset ((forestPreorder before).length + i + 1)
        (.mk parent at? (before ++ child :: after))
        (.mk parent at? (before ++ child' :: after))

theorem insertIdx_length {α : Type} (front back : List α) (x : α) :
    (front ++ back).insertIdx front.length x = front ++ x :: back := by
  induction front with
  | nil => rfl
  | cons y front ih =>
      simp only [List.cons_append, List.length_cons, List.insertIdx_succ_cons, ih]

/-- A node in a listing without its children. -/
def Node.label (node : Node) : NodeKind × UInt32 :=
  (node.kind, node.offset)

/-- The listings of the two trees agree before the leaf, but for the children of the nodes, and
they agree after it. -/
theorem WithLeaf.preorder_eq {kind : NodeKind} {offset : UInt32} {i : Nat} {t t' : Node}
    (h : WithLeaf kind offset i t t') :
    ∃ front front' back, t.preorder = front ++ back ∧
      t'.preorder = front' ++ .mk kind offset [] :: back ∧
      front'.map Node.label = front.map Node.label ∧ front.length = i := by
  induction h with
  | here parent at? before after =>
      refine ⟨.mk parent at? (before ++ after) :: forestPreorder before,
        .mk parent at? (before ++ .mk kind offset [] :: after) :: forestPreorder before,
        forestPreorder after, ?_, ?_, rfl, rfl⟩
      · simp [Node.preorder, forestPreorder_append]
      · simp [Node.preorder, forestPreorder_append, forestPreorder]
  | @inside parent at? before after i child child' _ ih =>
      obtain ⟨front, front', back, hchild, hchild', hlabels, hlength⟩ := ih
      refine ⟨.mk parent at? (before ++ child :: after) :: (forestPreorder before ++ front),
        .mk parent at? (before ++ child' :: after) :: (forestPreorder before ++ front'),
        back ++ forestPreorder after, ?_, ?_, ?_, ?_⟩
      · simp [Node.preorder, forestPreorder_append, forestPreorder, hchild]
      · simp [Node.preorder, forestPreorder_append, forestPreorder, hchild']
      · simp [Node.label, Node.kind, Node.offset, hlabels]
      · simp [hlength]

end Syntax

namespace FunctionName

open Syntax

theorem visit_congr {a b : Node} (h : a.kind = b.kind) (state : FileState) :
    visit a state = visit b state := by
  unfold visit
  rw [h]

theorem visitAll_cons (state : FileState) (node : Node) (rest : List Node) :
    rule.visitAll state (node :: rest) =
      ⟨(visit node state).diagnostics, (visit node state).log⟩ ++
        rule.visitAll (visit node state).state rest :=
  rfl

/-- A run reads nothing of a node but its kind. -/
theorem run_congr {a b : List Node} (h : a.map Node.label = b.map Node.label)
    (state : FileState) :
    rule.visitAll state a = rule.visitAll state b ∧
      rule.stateAfter state a = rule.stateAfter state b := by
  induction a generalizing b state with
  | nil =>
      obtain rfl : b = [] := List.map_eq_nil_iff.mp h.symm
      exact ⟨rfl, rfl⟩
  | cons x a ih =>
      cases b with
      | nil => cases h
      | cons y b =>
          obtain ⟨hxy, hrest⟩ := List.cons.inj h
          have hvisit := visit_congr (Prod.mk.inj hxy).1 state
          obtain ⟨hall, hafter⟩ := ih hrest (visit y state).state
          refine ⟨?_, ?_⟩
          · rw [visitAll_cons, visitAll_cons, hvisit, hall]
          · change rule.stateAfter (visit x state).state a = rule.stateAfter (visit y state).state b
            rw [hvisit, hafter]

theorem emittedAt_congr {a b : List Node} (h : a.map Node.label = b.map Node.label) (i : Nat) :
    rule.emittedAt a i = rule.emittedAt b i := by
  have hat : a[i]?.map Node.label = b[i]?.map Node.label := by
    rw [← List.getElem?_map, ← List.getElem?_map, h]
  have htake : (a.take i).map Node.label = (b.take i).map Node.label := by
    rw [List.map_take, List.map_take, h]
  have hstate : rule.stateAfter rule.initial (a.take i) =
      rule.stateAfter rule.initial (b.take i) := (run_congr htake _).2
  unfold Rule.emittedAt
  rw [hstate]
  cases ha : a[i]? with
  | none =>
      rw [ha] at hat
      rw [Option.map_eq_none_iff.mp hat.symm]
  | some x =>
      rw [ha] at hat
      obtain ⟨y, hb, hlabel⟩ := Option.map_eq_some_iff.mp hat.symm
      rw [hb]
      exact congrArg Visit.diagnostics (visit_congr (Prod.mk.inj hlabel).1.symm _)

theorem mem_diagnostics_visit {node : Node} {f : FunctionDeclaration}
    (h : node.kind = .function f) (state : FileState) (d : Diagnostic) :
    d ∈ (visit node state).diagnostics ↔ isAllowed state f = false ∧ d = diagnosticOf f := by
  rw [diagnostics_visit, misnamed?, (function?_eq_some node f).mpr h]
  cases hallowed : isAllowed state f <;> simp [Option.filter, hallowed]

/-- What is allowed before a test import is seen is allowed after it. -/
theorem isAllowed_mono {state state' : FileState} (h : state.isTest = true → state'.isTest = true)
    {f : FunctionDeclaration} (hf : isAllowed state f = true) : isAllowed state' f = true := by
  simp only [isAllowed, Bool.or_eq_true, Bool.and_eq_true] at hf ⊢
  exact hf.imp_left (Or.imp_right (And.imp_left h))

theorem visit_sublist {state state' : FileState}
    (h : state.isTest = true → state'.isTest = true) (node : Node) :
    (visit node state').diagnostics.Sublist (visit node state).diagnostics := by
  rw [diagnostics_visit, diagnostics_visit]
  unfold misnamed?
  cases node.function? with
  | none => exact List.Sublist.refl _
  | some f =>
      cases hf : isAllowed state f with
      | true => simp [Option.filter, hf, isAllowed_mono h hf]
      | false =>
          cases hf' : isAllowed state' f <;> simp [Option.filter, hf, hf']

theorem visitAll_sublist {state state' : FileState}
    (h : state.isTest = true → state'.isTest = true) (nodes : List Node) :
    (rule.visitAll state' nodes).diagnostics.Sublist (rule.visitAll state nodes).diagnostics := by
  induction nodes generalizing state state' with
  | nil => exact List.Sublist.refl _
  | cons node rest ih =>
      rw [visitAll_cons, visitAll_cons]
      refine (visit_sublist h node).append (ih ?_)
      simp only [isTest_visit]
      exact Or.imp_left h

theorem FileState.ext_isTest {state state' : FileState} (h : state.isTest = state'.isTest) :
    state = state' := by
  cases state <;> cases state' <;> simp_all [FileState.isTest]

theorem state_visit {node : Node} (h : ¬ IsTestImport node) (state : FileState) :
    (visit node state).state = state := by
  refine FileState.ext_isTest (Bool.eq_iff_iff.mpr ?_)
  rw [isTest_visit, or_iff_left h]

theorem visitAll_addLeaf (front back : List Node) (leaf : Node) (hleaf : leaf.function? = none) :
    (rule.visitAll rule.initial (front ++ leaf :: back)).diagnostics =
      (rule.visitAll rule.initial front).diagnostics ++
        (rule.visitAll (visit leaf (stateAfter front)).state back).diagnostics := by
  have hsilent : (visit leaf (stateAfter front)).diagnostics = [] := by
    rw [diagnostics_visit, misnamed?, hleaf]
    rfl
  rw [Rule.visitAll_append, Findings.diagnostics_append]
  refine congrArg (_ ++ ·) ?_
  change ((visit leaf (stateAfter front)).diagnostics ++ _ : List Diagnostic) = _
  rw [hsilent]
  rfl

/-- What a test import at position `k` takes away: the report of a function behind it that has the
name of a test, unless an import of the tree has already made the function one of a test file. -/
structure Silences (path : Option String) (k : Nat) (nodes : List Node) (i : Nat)
    (f : FunctionDeclaration) : Prop where
  testImport : ∃ text, path = some text ∧
    ∃ framework ∈ ["org.junit", "org.testng", "kotlin.test"], framework.toList <+: text.toList
  behind : k ≤ i
  first : ¬ ∃ node ∈ nodes.take i, IsTestImport node
  testName : isTestName f.nameText = true

theorem isTestImport_leaf (path : Option String) (offset : UInt32) :
    IsTestImport (.mk (.importDirective path) offset []) ↔ ∃ text, path = some text ∧
      ∃ framework ∈ ["org.junit", "org.testng", "kotlin.test"],
        framework.toList <+: text.toList := by
  simp only [IsTestImport, Node.kind, NodeKind.importDirective.injEq]

/-- Behind the leaf a function is seen in the state of a test file when the leaf is a test import or
the function was in a test file before. -/
theorem isTest_behind (front back : List Node) (leaf : Node) :
    (stateAfter (front ++ leaf :: back)).isTest = true ↔
      IsTestImport leaf ∨ (stateAfter (front ++ back)).isTest = true := by
  simp only [isTest_stateAfter, List.mem_append, List.mem_cons, or_and_right, exists_or,
    exists_eq_left]
  exact or_left_comm

theorem emittedAt_behind (front back : List Node) (leaf : Node) (i : Nat) {node : Node}
    (h : back[i]? = some node) :
    rule.emittedAt (front ++ back) (front.length + i) =
        (visit node (stateAfter (front ++ back.take i))).diagnostics ∧
      rule.emittedAt (front ++ leaf :: back) (front.length + i + 1) =
        (visit node (stateAfter (front ++ leaf :: back.take i))).diagnostics := by
  have hshift := rule.emittedAt_append_right front (leaf :: back) (i + 1)
  have hplain := rule.emittedAt_append_right front back i
  simp only [List.getElem?_cons_succ, List.take_succ_cons, h] at hshift hplain
  exact ⟨hplain, hshift⟩

/-- A report behind the leaf is lost exactly when the leaf is the first test import before it and
excuses the name. -/
theorem lost_iff (front back : List Node) (path : Option String) (offset : UInt32) (i : Nat)
    {node : Node} (h : back[i]? = some node) {f : FunctionDeclaration}
    (hf : node.kind = .function f) {d : Diagnostic}
    (hd : d ∈ rule.emittedAt (front ++ back) (front.length + i)) :
    d ∉ rule.emittedAt (front ++ .mk (.importDirective path) offset [] :: back)
        (front.length + i + 1) ↔
      Silences path front.length (front ++ back) (front.length + i) f := by
  obtain ⟨hplain, hshift⟩ := emittedAt_behind front back (.mk (.importDirective path) offset []) i h
  rw [hplain, mem_diagnostics_visit hf] at hd
  rw [hshift, mem_diagnostics_visit hf]
  obtain ⟨hreported, rfl⟩ := hd
  have hstate := isTest_behind front (back.take i) (.mk (.importDirective path) offset [])
  have hearlier := isTest_stateAfter (front ++ back.take i)
  rw [isTestImport_leaf] at hstate
  have htake : (front ++ back).take (front.length + i) = front ++ back.take i :=
    List.take_length_add_append i
  simp only [isAllowed, Bool.or_eq_false_iff, Bool.and_eq_false_iff] at hreported ⊢
  obtain ⟨⟨hfactory, hname⟩, hordinary⟩ := hreported
  simp only [hfactory, hordinary, true_and, and_true]
  constructor
  · intro hlost
    obtain ⟨htest, hname'⟩ := not_or.mp hlost
    rw [Bool.not_eq_false] at htest hname'
    have hfirst : ¬ (stateAfter (front ++ back.take i)).isTest = true := by
      rcases hname with hstill | hbad
      · simp [hstill]
      · cases hname'.symm.trans hbad
    exact ⟨(hstate.mp htest).resolve_right hfirst, Nat.le_add_right _ _,
      htake ▸ mt hearlier.mpr hfirst, hname'⟩
  · intro hsilenced
    have htest := hstate.mpr (.inl hsilenced.testImport)
    rintro (hstill | hbad)
    · cases htest.symm.trans hstill
    · cases hsilenced.testName.symm.trans hbad

/-- An import that is added to a tree takes reports away behind itself and does nothing else. -/
theorem check_addImport {t t' : Node} {path : Option String} {offset : UInt32} {k : Nat}
    (h : WithLeaf (.importDirective path) offset k t t') :
    t'.nodes.map Node.label =
        (t.nodes.map Node.label).insertIdx k (.importDirective path, offset) ∧
      (∀ tree : Node, (rule.check tree).diagnostics =
        (List.range tree.nodes.length).flatMap (rule.emittedAt tree.nodes)) ∧
      (rule.check t').diagnostics.Sublist (rule.check t).diagnostics ∧
      (∀ i < k, rule.emittedAt t'.nodes i = rule.emittedAt t.nodes i) ∧
      (∀ i node f d, t.nodes[i]? = some node → node.kind = .function f →
        d ∈ rule.emittedAt t.nodes i →
        (d ∉ rule.emittedAt t'.nodes (if i < k then i else i + 1) ↔
          Silences path k t.nodes i f)) ∧
      ((¬ ∃ text, path = some text ∧
          ∃ framework ∈ ["org.junit", "org.testng", "kotlin.test"],
            framework.toList <+: text.toList) →
        (rule.check t').diagnostics = (rule.check t).diagnostics) := by
  obtain ⟨front, front', back, ht, ht', hlabels, rfl⟩ := h.preorder_eq
  let leaf : Node := .mk (.importDirective path) offset []
  have hnodes : t.nodes = front ++ back := by rw [nodes_eq_preorder, ht]
  have hlisting : t'.nodes.map Node.label = (front ++ leaf :: back).map Node.label := by
    rw [nodes_eq_preorder, ht', List.map_append, List.map_append, hlabels]
  have hcheck : (rule.check t).diagnostics = (rule.visitAll rule.initial front).diagnostics ++
      (rule.visitAll (stateAfter front) back).diagnostics := by
    rw [Rule.check, hnodes, Rule.visitAll_append]
    rfl
  have hcheck' : (rule.check t').diagnostics =
      (rule.visitAll rule.initial front).diagnostics ++
        (rule.visitAll (visit leaf (stateAfter front)).state back).diagnostics := by
    rw [← visitAll_addLeaf front back leaf rfl]
    exact congrArg Findings.diagnostics (run_congr hlisting rule.initial).1
  have hmono : (stateAfter front).isTest = true →
      (visit leaf (stateAfter front)).state.isTest = true :=
    fun htest => (isTest_visit leaf _).mpr (.inl htest)
  refine ⟨?_, fun tree => rule.visitAll_eq_flatMap tree.nodes, ?_, fun i hi => ?_, ?_, ?_⟩
  · have hlength : front.length = (front.map Node.label).length := by simp
    rw [hlisting, hnodes, List.map_append, List.map_append, hlength, insertIdx_length]
    rfl
  · rw [hcheck, hcheck']
    exact (List.Sublist.refl _).append (visitAll_sublist hmono back)
  · rw [emittedAt_congr hlisting, hnodes, rule.emittedAt_append_left hi,
      rule.emittedAt_append_left hi]
  · intro i node f d hnode hf hd
    rw [emittedAt_congr hlisting]
    rw [hnodes] at hnode hd ⊢
    by_cases hi : i < front.length
    · have hkept : d ∈ rule.emittedAt (front ++ leaf :: back) i := by
        rw [rule.emittedAt_append_left hi] at hd ⊢
        exact hd
      rw [if_pos hi]
      exact iff_of_false (not_not_intro hkept) fun h => absurd hi (Nat.not_lt.mpr h.behind)
    · obtain ⟨j, rfl⟩ := Nat.exists_eq_add_of_le (Nat.not_lt.mp hi)
      rw [if_neg hi]
      rw [List.getElem?_append_right (Nat.le_add_right _ _), Nat.add_sub_cancel_left] at hnode
      exact lost_iff front back path offset j hnode hf hd
  · intro hplain
    have hleaf : ¬ IsTestImport leaf := mt (isTestImport_leaf path offset).mp hplain
    rw [hcheck, hcheck', state_visit hleaf]

/-- A function with underscores in its name, and another one in a class that begins with the given
imports. -/
def underscored (imports : List Node) : Node :=
  .mk .file 0
    [.function { name := some ⟨"early_one", 4⟩ } 0 [],
     .mk (.other "class_declaration") 20
       (imports ++ [.function { name := some ⟨"late_one", 64⟩ } 60 []])]

/-- An import in the class takes away the report of the function in the class, and that one only. -/
theorem check_underscored :
    WithLeaf (.importDirective (some "org.junit.Test")) 30 4 (underscored [])
        (underscored [.mk (.importDirective (some "org.junit.Test")) 30 []]) ∧
      diagnosticOf { name := some ⟨"late_one", 64⟩ } ∈ rule.emittedAt (underscored []).nodes 4 ∧
      diagnosticOf { name := some ⟨"late_one", 64⟩ } ∉ rule.emittedAt
        (underscored [.mk (.importDirective (some "org.junit.Test")) 30 []]).nodes 5 ∧
      rule.emittedAt (underscored [.mk (.importDirective (some "org.junit.Test")) 30 []]).nodes 1 =
        rule.emittedAt (underscored []).nodes 1 := by
  have hadded : WithLeaf (.importDirective (some "org.junit.Test")) 30 4 (underscored [])
      (underscored [.mk (.importDirective (some "org.junit.Test")) 30 []]) :=
    .inside .file 0 [.function { name := some ⟨"early_one", 4⟩ } 0 []] []
      (.here (.other "class_declaration") 20 [] [.function { name := some ⟨"late_one", 64⟩ } 60 []])
  obtain ⟨-, -, -, hbefore, hlost, -⟩ := check_addImport hadded
  have hreported : diagnosticOf { name := some ⟨"late_one", 64⟩ } ∈
      rule.emittedAt (underscored []).nodes 4 := by decide +kernel
  have hfirst : ¬ ∃ node ∈ (underscored []).nodes.take 4, IsTestImport node := by
    have hkinds : ∀ node ∈ (underscored []).nodes.take 4, node.importPath? = none := by
      decide +kernel
    rintro ⟨node, hnode, path, hkind, -⟩
    have hnone := hkinds node hnode
    rw [Node.importPath?, hkind] at hnone
    cases hnone
  refine ⟨hadded, hreported, ?_, hbefore 1 (by decide)⟩
  refine (hlost 4 _ { name := some ⟨"late_one", 64⟩ } _ rfl rfl hreported).mpr ⟨?_, ?_, hfirst, ?_⟩
  · exact ⟨"org.junit.Test", rfl, "org.junit", by simp, by decide +kernel⟩
  · exact Nat.le_refl 4
  · decide +kernel

end FunctionName
end NamingLint
