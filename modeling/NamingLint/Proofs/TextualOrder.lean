import NamingLint.Proofs.AddedImports
import NamingLint.Proofs.KeptNodes
import NamingLint.SourceFile.Loading

/-!
The order of the traversal and the order of the text. Where the ranges of a concrete tree nest, a
node starts where the traversal reaches it, no earlier than anything it has passed; so what stands
before a function in the text is what a run has seen when it comes to the function. That ranges
nest is asked of the tree and not proved of any parser. Which of two nodes that start at the same
octet comes first is left open.
-/

namespace NamingLint.Kotlin

open Syntax

namespace Concrete

/-- The children of every node lie inside its range, each behind the one before it. -/
inductive Ranged : Concrete → Prop where
  | node {head : Head} {children : List Concrete}
      (forward : head.start ≤ head.stop)
      (inside : ∀ c ∈ children, head.start ≤ c.head.start ∧ c.head.stop ≤ head.stop)
      (apart : children.Pairwise fun a b => a.head.stop ≤ b.head.start)
      (below : ∀ c ∈ children, Ranged c) : Ranged (.node head children)

mutual

def isRanged : Concrete → Bool
  | node head children =>
      decide (head.start ≤ head.stop ∧
        (∀ c ∈ children, head.start ≤ c.head.start ∧ c.head.stop ≤ head.stop) ∧
        children.Pairwise fun a b => a.head.stop ≤ b.head.start) && areRanged children

def areRanged : List Concrete → Bool
  | [] => true
  | c :: rest => c.isRanged && areRanged rest

end

theorem areRanged_iff (children : List Concrete) :
    areRanged children = true ↔ ∀ c ∈ children, c.isRanged = true := by
  induction children with
  | nil => simp [areRanged]
  | cons c rest ih => rw [areRanged, Bool.and_eq_true, ih, List.forall_mem_cons]

theorem isRanged_iff (c : Concrete) : c.isRanged = true ↔ c.Ranged := by
  induction c using induct with
  | node head children ih =>
      rw [isRanged, Bool.and_eq_true, decide_eq_true_iff, areRanged_iff]
      constructor
      · intro h
        obtain ⟨⟨forward, inside, apart⟩, hbelow⟩ := h
        exact .node forward inside apart fun c hc => (ih c hc).mp (hbelow c hc)
      · intro h
        obtain ⟨forward, inside, apart, below⟩ := h
        exact ⟨⟨forward, inside, apart⟩, fun c hc => (ih c hc).mpr (below c hc)⟩

instance (c : Concrete) : Decidable c.Ranged :=
  decidable_of_iff _ (isRanged_iff c)

theorem Ranged.forward {c : Concrete} (h : c.Ranged) : c.head.start ≤ c.head.stop := by
  cases h
  assumption

theorem map_snd_visibleFrom (i : Nat) (children : List Concrete) :
    (visibleFrom i children).map Prod.snd =
      (children.filter isKept).flatMap fun c => c.visibleNodes.map Prod.snd := by
  induction children generalizing i with
  | nil => rfl
  | cons c rest ih =>
      cases h : c.isKept with
      | false => simp [visibleFrom, h, ih]
      | true => simp [visibleFrom, h, ih, Function.comp_def]

/-- What survives below a node starts in the range of the node. -/
theorem Ranged.start_mem {c d : Concrete} (h : c.Ranged) (hd : d ∈ c.visibleNodes.map Prod.snd) :
    c.head.start ≤ d.head.start ∧ d.head.start ≤ c.head.stop := by
  induction c using induct generalizing d with
  | node head children ih =>
      rw [visibleNodes_eq, List.map_cons, map_snd_visibleFrom, List.mem_cons] at hd
      rcases hd with rfl | hmem
      · exact ⟨Nat.le_refl _, h.forward⟩
      · obtain ⟨-, inside, -, below⟩ := h
        obtain ⟨c, hkept, hmem⟩ := List.mem_flatMap.mp hmem
        have hc : c ∈ children := List.mem_of_mem_filter hkept
        obtain ⟨hstart, hstop⟩ := ih c hc (below c hc) hmem
        obtain ⟨hfirst, hlast⟩ := inside c hc
        exact ⟨Nat.le_trans hfirst hstart, Nat.le_trans hstop hlast⟩

/-- Siblings that lie apart keep apart what is below them, so the order of the siblings carries over
to nodes of different subtrees. -/
theorem Ranged.sorted_visibleNodes {c : Concrete} (h : c.Ranged) :
    (c.visibleNodes.map Prod.snd).Pairwise fun a b => a.head.start ≤ b.head.start := by
  induction c using induct with
  | node head children ih =>
      have hstart (d) (hd : d ∈ (Concrete.node head children).visibleNodes.map Prod.snd) :
          head.start ≤ d.head.start := (h.start_mem hd).1
      obtain ⟨-, -, apart, below⟩ := h
      rw [visibleNodes_eq, List.map_cons, map_snd_visibleFrom] at hstart ⊢
      refine List.pairwise_cons.mpr ⟨fun d hd => hstart d (List.mem_cons_of_mem _ hd), ?_⟩
      refine List.pairwise_flatMap.mpr ⟨fun c hkept => ?_, ?_⟩
      · have hc : c ∈ children := List.mem_of_mem_filter hkept
        exact ih c hc (below c hc)
      · refine (apart.filter isKept).imp_of_mem fun {a b} ha hb hab x hx y hy => ?_
        have hbefore := ((below a (List.mem_of_mem_filter ha)).start_mem hx).2
        have hbehind := ((below b (List.mem_of_mem_filter hb)).start_mem hy).1
        calc
          x.head.start ≤ a.head.stop := hbefore
          _ ≤ b.head.start := hab
          _ ≤ y.head.start := hbehind

/-- A tree of a source; a source over the limit is refused before there is a tree of it. -/
structure LiesOver (source : List Char) (root : Concrete) : Prop where
  ranged : root.Ranged
  inside : root.head.stop ≤ Text.octets source
  accepted : Text.octets source ≤ SourceFile.sizeLimit

instance (source : List Char) (root : Concrete) : Decidable (LiesOver source root) :=
  decidable_of_iff
    (root.Ranged ∧ root.head.stop ≤ Text.octets source ∧
      Text.octets source ≤ SourceFile.sizeLimit)
    ⟨fun ⟨ranged, inside, accepted⟩ => ⟨ranged, inside, accepted⟩,
      fun ⟨ranged, inside, accepted⟩ => ⟨ranged, inside, accepted⟩⟩

/-- No offset into an accepted source is cut off when it is put into a 32-bit word. -/
theorem toNat_offset {n : Nat} (h : n ≤ SourceFile.sizeLimit) : n.toUInt32.toNat = n :=
  UInt32.toNat_ofNat_of_lt (Nat.lt_of_le_of_lt h (by decide))

theorem LiesOver.toNat_start {source : List Char} {root : Concrete} (h : LiesOver source root)
    {p : List Nat × Concrete} (hp : p ∈ root.visibleNodes) :
    p.2.head.start.toUInt32.toNat = p.2.head.start := by
  have hstart : p.2.head.start ≤ root.head.stop :=
    (h.ranged.start_mem (List.mem_map_of_mem hp)).2
  exact toNat_offset (Nat.le_trans hstart (Nat.le_trans h.inside h.accepted))

end Concrete

open Concrete

theorem label_nodes (source : List Char) (root : Concrete) :
    (assemble source root).nodes.map Node.label =
      root.visibleNodes.map fun p => (p.2.nodeKind source, p.2.head.start.toUInt32) := by
  rw [assemble_eq_lower, nodes_eq_preorder]
  exact map_preorder_lower source root

variable {source : List Char} {root : Concrete}

/-- The offsets of a tree are where its nodes start in the source. -/
theorem Concrete.LiesOver.starts (h : LiesOver source root) :
    (assemble source root).nodes.map (fun n => (n.kind, n.offset.toNat)) =
      root.visibleNodes.map fun p => (p.2.nodeKind source, p.2.head.start) := by
  have hlabels := congrArg (List.map fun l => (l.1, l.2.toNat)) (label_nodes source root)
  rw [List.map_map, List.map_map] at hlabels
  refine hlabels.trans (List.map_congr_left fun p hp => ?_)
  exact Prod.ext rfl (h.toNat_start hp)

theorem Concrete.LiesOver.sorted_nodes (h : LiesOver source root) :
    (assemble source root).nodes.Pairwise fun a b => a.offset ≤ b.offset := by
  have hvisible := h.ranged.sorted_visibleNodes
  rw [List.pairwise_map] at hvisible
  have hsorted : ((assemble source root).nodes.map fun n => (n.kind, n.offset.toNat)).Pairwise
      fun a b => a.2 ≤ b.2 := by
    rw [h.starts, List.pairwise_map]
    exact hvisible
  exact (List.pairwise_map.mp hsorted).imp UInt32.le_iff_toNat_le.mpr

end NamingLint.Kotlin

namespace NamingLint.FunctionName

open Syntax

variable {nodes : List Node}

/-- In a listing in the order of the text, what starts earlier comes earlier. -/
theorem position_lt (sorted : nodes.Pairwise fun a b => a.offset ≤ b.offset) {i j : Nat}
    {a b : Node} (ha : nodes[i]? = some a) (hb : nodes[j]? = some b) (h : a.offset < b.offset) :
    i < j := by
  rcases Nat.lt_trichotomy i j with hlt | rfl | hlt
  · exact hlt
  · obtain rfl : a = b := Option.some.inj (ha.symm.trans hb)
    exact absurd h (UInt32.lt_irrefl _)
  · obtain ⟨hj, rfl⟩ := List.getElem?_eq_some_iff.mp hb
    obtain ⟨hi, rfl⟩ := List.getElem?_eq_some_iff.mp ha
    exact absurd h (UInt32.not_lt.mpr (List.pairwise_iff_getElem.mp sorted j i hj hi hlt))

theorem emittedAt_function {j : Nat} {node : Node} {f : FunctionDeclaration}
    (hnode : nodes[j]? = some node) (hf : node.kind = .function f) :
    rule.emittedAt nodes j = (checkFunction (stateAfter (nodes.take j)) f).toList := by
  unfold Rule.emittedAt
  rw [hnode]
  change (visit node (stateAfter (nodes.take j))).diagnostics = _
  unfold visit
  rw [hf]

/-- A test import at a smaller offset than a function makes the function one of a test file. -/
theorem emittedAt_test (sorted : nodes.Pairwise fun a b => a.offset ≤ b.offset) {j : Nat}
    {node : Node} {f : FunctionDeclaration} (hnode : nodes[j]? = some node)
    (hf : node.kind = .function f)
    (h : ∃ n ∈ nodes, IsTestImport n ∧ n.offset < node.offset) :
    rule.emittedAt nodes j = (checkFunction .test f).toList := by
  obtain ⟨n, hmem, hn, hlt⟩ := h
  obtain ⟨i, hi⟩ := List.getElem?_of_mem hmem
  have hbefore : (nodes.take j)[i]? = some n := by
    rw [List.getElem?_take_of_lt (position_lt sorted hi hnode hlt), hi]
  have htest : stateAfter (nodes.take j) = .test :=
    FileState.ext_isTest ((isTest_stateAfter _).mpr ⟨n, List.mem_of_getElem? hbefore, hn⟩)
  rw [emittedAt_function hnode hf, htest]

/-- Test imports that all have greater offsets leave the function an ordinary one. -/
theorem emittedAt_ordinary (sorted : nodes.Pairwise fun a b => a.offset ≤ b.offset) {j : Nat}
    {node : Node} {f : FunctionDeclaration} (hnode : nodes[j]? = some node)
    (hf : node.kind = .function f)
    (h : ∀ n ∈ nodes, IsTestImport n → node.offset < n.offset) :
    rule.emittedAt nodes j = (checkFunction .ordinary f).toList := by
  have hnone : ¬ ∃ n ∈ nodes.take j, IsTestImport n := by
    rintro ⟨n, hmem, hn⟩
    obtain ⟨i, hi, rfl⟩ := List.mem_take_iff_getElem.mp hmem
    have hlt := h _ (List.mem_of_mem_take hmem) hn
    exact Nat.lt_asymm (Nat.lt_of_lt_of_le hi (Nat.min_le_left _ _))
      (position_lt sorted hnode (List.getElem?_eq_getElem _) hlt)
  have hordinary : stateAfter (nodes.take j) = .ordinary :=
    FileState.ext_isTest (Bool.eq_false_iff.mpr (mt (isTest_stateAfter _).mp hnone))
  rw [emittedAt_function hnode hf, hordinary]

/-- The function at a position is judged by the test imports that start before it, and not by what
starts behind it. -/
structure JudgedTextually (nodes : List Node) (j : Nat) (node : Node) (f : FunctionDeclaration) :
    Prop where
  before : (∃ n ∈ nodes, IsTestImport n ∧ n.offset < node.offset) →
    rule.emittedAt nodes j = (checkFunction .test f).toList
  behind : (∀ n ∈ nodes, IsTestImport n → node.offset < n.offset) →
    rule.emittedAt nodes j = (checkFunction .ordinary f).toList
  erased : ∀ i n, nodes[i]? = some n → node.offset < n.offset →
    rule.emittedAt (nodes.eraseIdx i) j = rule.emittedAt nodes j

theorem judgedTextually_of_sorted (sorted : nodes.Pairwise fun a b => a.offset ≤ b.offset)
    {j : Nat} {node : Node} {f : FunctionDeclaration} (hnode : nodes[j]? = some node)
    (hf : node.kind = .function f) : JudgedTextually nodes j node f where
  before := emittedAt_test sorted hnode hf
  behind := emittedAt_ordinary sorted hnode hf
  erased := fun _ _ hn hlt => rule.emittedAt_eraseIdx (position_lt sorted hnode hn hlt)

end NamingLint.FunctionName

namespace NamingLint.Kotlin

open Syntax FunctionName Concrete

/-- The traversal of a parsed file goes through its surviving nodes in the order in which they
start in the source, and so every function is judged by the test imports before it in the text,
whatever stands around either of them. -/
theorem traversal_textual {source : List Char} {root : Concrete} (h : LiesOver source root) :
    (assemble source root).nodes.Pairwise (fun a b => a.offset ≤ b.offset) ∧
      (assemble source root).nodes.map (fun n => (n.kind, n.offset.toNat)) =
        root.visibleNodes.map (fun p => (p.2.nodeKind source, p.2.head.start)) ∧
      (rule.check (assemble source root)).diagnostics =
        (List.range (assemble source root).nodes.length).flatMap
          (rule.emittedAt (assemble source root).nodes) ∧
      ∀ j node f, (assemble source root).nodes[j]? = some node → node.kind = .function f →
        JudgedTextually (assemble source root).nodes j node f :=
  ⟨h.sorted_nodes, h.starts, rule.visitAll_eq_flatMap _,
    fun _ _ _ hnode hf => judgedTextually_of_sorted h.sorted_nodes hnode hf⟩

def scatteredText : List Char :=
  "fun a_b() {}\nimport org.junit.Test\nclass A { fun c_d() {} }".toList

def namedNode (kind : String) (start stop : Nat) (children : List Concrete) : Concrete :=
  .node { kind, named := true, start, stop } children

/-- A function without parameters and with an empty body, its name of three characters. -/
def shortFunction (start : Nat) : Concrete :=
  namedNode "function_declaration" start (start + 12)
    [.node { kind := "fun", named := false, start, stop := start + 3 } [],
     .node { kind := "identifier", named := true, role := .name, start := start + 4,
             stop := start + 7 } [],
     namedNode "function_value_parameters" (start + 7) (start + 9) [],
     namedNode "function_body" (start + 10) (start + 12) []]

/-- The import stands where none may, and a class encloses the function after it. -/
def scattered : Concrete :=
  namedNode "source_file" 0 59
    [shortFunction 0,
     .node { kind := "ERROR", named := true, extra := true, start := 13, stop := 34 }
       [namedNode "import" 13 34 [namedNode "qualified_identifier" 20 34 []]],
     namedNode "class_declaration" 35 59
       [namedNode "identifier" 41 42 [], namedNode "class_body" 43 59 [shortFunction 45]]]

theorem labels_scattered : (assemble scatteredText scattered).nodes.map Node.label =
    [(.file, 0), (.function ⟨some ⟨"a_b", 4⟩, none⟩, 0), (.identifier ⟨"a_b", 4⟩, 4),
      (.other "function_value_parameters", 7), (.other "function_body", 10), (.other "ERROR", 13),
      (.importDirective (some "org.junit.Test"), 13), (.other "qualified_identifier", 20),
      (.other "class_declaration", 35), (.identifier ⟨"A", 41⟩, 41), (.other "class_body", 43),
      (.function ⟨some ⟨"c_d", 49⟩, none⟩, 45), (.identifier ⟨"c_d", 49⟩, 49),
      (.other "function_value_parameters", 52), (.other "function_body", 55)] := by
  decide +kernel

theorem exists_of_label {nodes : List Node} {j : Nat} {kind : NodeKind} {offset : UInt32}
    (h : (nodes.map Node.label)[j]? = some (kind, offset)) :
    ∃ node, nodes[j]? = some node ∧ node.kind = kind ∧ node.offset = offset := by
  rw [List.getElem?_map] at h
  obtain ⟨node, hnode, hlabel⟩ := Option.map_eq_some_iff.mp h
  exact ⟨node, hnode, Prod.mk.inj hlabel⟩

theorem traversal_scattered :
    LiesOver scatteredText scattered ∧
      rule.emittedAt (assemble scatteredText scattered).nodes 1 =
        [diagnosticOf ⟨some ⟨"a_b", 4⟩, none⟩] ∧
      rule.emittedAt ((assemble scatteredText scattered).nodes.eraseIdx 6) 1 =
        [diagnosticOf ⟨some ⟨"a_b", 4⟩, none⟩] ∧
      rule.emittedAt (assemble scatteredText scattered).nodes 11 = [] := by
  have h : LiesOver scatteredText scattered := by decide +kernel
  obtain ⟨-, -, -, hjudged⟩ := traversal_textual h
  obtain ⟨first, hfirst, hfirstKind, hfirstOffset⟩ :=
    exists_of_label (congrArg (·[1]?) labels_scattered)
  obtain ⟨test, htest, htestKind, htestOffset⟩ :=
    exists_of_label (congrArg (·[6]?) labels_scattered)
  obtain ⟨last, hlast, hlastKind, hlastOffset⟩ :=
    exists_of_label (congrArg (·[11]?) labels_scattered)
  have hbehind : first.offset < test.offset := by
    rw [hfirstOffset, htestOffset]
    decide
  have hbefore : test.offset < last.offset := by
    rw [htestOffset, hlastOffset]
    decide
  have hisTest : IsTestImport test :=
    ⟨"org.junit.Test", htestKind, "org.junit", List.mem_cons_self, by decide⟩
  have honly (n) (hn : n ∈ (assemble scatteredText scattered).nodes) (himport : IsTestImport n) :
      first.offset < n.offset := by
    obtain ⟨path, hkind, -⟩ := himport
    have hlabel := List.mem_map_of_mem (f := Node.label) hn
    rw [labels_scattered, Node.label, hkind] at hlabel
    obtain ⟨-, hoffset⟩ : path = "org.junit.Test" ∧ n.offset = 13 := by simpa using hlabel
    rw [hfirstOffset, hoffset]
    decide
  have hreported : rule.emittedAt (assemble scatteredText scattered).nodes 1 =
      [diagnosticOf ⟨some ⟨"a_b", 4⟩, none⟩] :=
    ((hjudged 1 first _ hfirst hfirstKind).behind honly).trans (by decide +kernel)
  refine ⟨h, hreported, ?_, ?_⟩
  · rw [(hjudged 1 first _ hfirst hfirstKind).erased 6 test htest hbehind, hreported]
  · refine ((hjudged 11 last _ hlast hlastKind).before ?_).trans (by decide +kernel)
    exact ⟨test, List.mem_of_getElem? htest, hisTest, hbefore⟩

end NamingLint.Kotlin
