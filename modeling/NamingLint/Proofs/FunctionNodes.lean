import NamingLint.Proofs.ReportedNames

/-!
The identifier below a function node. In a tree that is built by hand the name of a function is a
child of it; in a lowered tree it is one as well, if the grammar keeps two promises, which are asked
of the tree and not proved of any parser: identifiers are named nodes, and what is looked up as a
name is not an extra child. The name and the children are read from the same list in different ways.
-/

namespace NamingLint

open Syntax

/-- A child of a function node is the identifier of its name. -/
def Syntax.Node.ShowsName (node : Node) : Prop :=
  ∀ f t, node.kind = .function f → f.name = some t →
    ∃ child ∈ node.children, child.kind = .identifier t ∧ child.offset = t.offset

theorem Syntax.Node.showsName_function (f : FunctionDeclaration) (offset : UInt32)
    (children : List Node) : (Node.function f offset children).ShowsName := by
  intro g t hkind hname
  obtain rfl : f = g := NodeKind.function.inj hkind
  refine ⟨Node.identifier t, List.mem_append_left _ ?_, rfl, rfl⟩
  simp [hname]

namespace Kotlin

namespace Concrete

/-- What the grammar promises of the children of a node: identifiers are named, and a child in the
field of the name is not extra. -/
structure NamesInPlace (c : Concrete) : Prop where
  identifiers : ∀ d ∈ c.children, d.isIdentifier = true → d.head.named = true
  field : ∀ d, NameField c.children d → d.head.extra = false

instance (c : Concrete) : Decidable c.NamesInPlace :=
  decidable_of_iff
    ((∀ d ∈ c.children, d.isIdentifier = true → d.head.named = true) ∧
      ∀ d ∈ c.children.find? fun d => d.head.role == .name, d.head.extra = false)
    ⟨fun ⟨identifiers, field⟩ => ⟨identifiers, fun d hd =>
        field d ((find?_name_eq_some c.children d).mpr hd)⟩,
      fun ⟨identifiers, field⟩ => ⟨identifiers, fun d hd =>
        field d ((find?_name_eq_some c.children d).mp hd)⟩⟩

variable {source : List Char} {c d : Concrete}

theorem nodeKind_eq_function {f : FunctionDeclaration} (h : c.nodeKind source = .function f) :
    f = functionDeclaration source c.children := by
  unfold nodeKind at h
  split_ifs at h
  exact (NodeKind.function.inj h).symm

theorem nodeKind_identifier (h : c.isIdentifier = true) :
    c.nodeKind source = .identifier (c.token source) := by
  have hkind : c.kind = "identifier" ∨ c.kind = "simple_identifier" := by
    simpa [isIdentifier, isIdentifierKind] using h
  rcases hkind with hkind | hkind <;> simp [nodeKind, hkind, h, isImportKind]

theorem NamedBy.isIdentifier {children : List Concrete} (h : NamedBy children d) :
    d.isIdentifier = true := by
  cases h with
  | field _ identifier => exact identifier
  | last _ _ identifier =>
      obtain ⟨-, -, -, hd, -⟩ := identifier
      exact hd

/-- The name of a function is among the children that are kept. -/
theorem NamesInPlace.mem_kept (h : c.NamesInPlace) (hd : NamedBy c.children d) : d ∈ c.kept := by
  have hnamed := h.identifiers d hd.mem hd.isIdentifier
  refine List.mem_filter.mpr ⟨hd.mem, (isKept_iff d).mpr ⟨hnamed, .inl ?_⟩⟩
  cases hd with
  | field lookup _ => exact h.field d lookup
  | last _ divided identifier =>
      simpa using (List.mem_filter.mp (identifier.mem_proper divided)).2

theorem NamesInPlace.showsName (h : c.NamesInPlace) (source : List Char) :
    (lower source c).ShowsName := by
  rw [lower_eq]
  intro f t hkind hname
  rw [nodeKind_eq_function hkind, functionDeclaration_eq, Option.map_eq_some_iff] at hname
  obtain ⟨d, hd, rfl⟩ := hname
  have hnamed := (name_eq_some c.children d).mp hd
  refine ⟨lower source d, List.mem_map_of_mem (h.mem_kept hnamed), ?_, ?_⟩
  · rw [lower_eq]
    exact nodeKind_identifier hnamed.isIdentifier
  · rw [lower_eq]
    rfl

end Concrete

open Concrete

/-- Every function node with a name shows it in a child, which a walk over the identifiers meets
behind the node and before it has left what is below the node. -/
theorem functions_showNames (source : List Char) {root : Concrete}
    (h : ∀ address c, Visible root address c → c.NamesInPlace) :
    (∀ f offset children, (Node.function f offset children).ShowsName) ∧
    (∀ n ∈ (assemble source root).nodes, n.ShowsName) ∧
    ∀ (i : Nat) (n : Node) (f : FunctionDeclaration) (t : Token),
      (assemble source root).nodes[i]? = some n → n.kind = .function f → f.name = some t →
      ∃ (j : Nat) (child : Node), i < j ∧ j < i + n.size ∧
        (assemble source root).nodes[j]? = some child ∧
        child.kind = .identifier t ∧ child.offset = t.offset := by
  have hshows : ∀ n ∈ (assemble source root).nodes, n.ShowsName := by
    intro n hn
    rw [assemble_eq_lower, nodes_eq_preorder, preorder_lower] at hn
    obtain ⟨⟨address, c⟩, hc, rfl⟩ := List.mem_map.mp hn
    exact (h address c ((mem_visibleNodes root address c).mp hc)).showsName source
  refine ⟨Node.showsName_function, hshows, fun i n f t hn hkind hname => ?_⟩
  obtain ⟨child, hchild, hidentifier, hoffset⟩ :=
    hshows n (List.mem_of_getElem? hn) f t hkind hname
  obtain ⟨j, hbehind, hbelow, hj⟩ := exists_position_of_child hn hchild
  exact ⟨j, child, hbehind, hbelow, hj, hidentifier, hoffset⟩

/-- A function with a receiver in text that could not be read, with an error that is an identifier
between its name and its parameters. -/
def brokenTree : Concrete :=
  namedNode "source_file" 0 13
    [.node { kind := "ERROR", named := true, extra := true, start := 0, stop := 13 }
      [namedNode "function_declaration" 0 13
        (overtyped.insertIdx 4 (leafAt "identifier" 7 7 true true))]]

/-- The identifier of the name is found; those of the receiver and of the error are others. -/
theorem functions_brokenTree :
    (∀ address c, Visible brokenTree address c → c.NamesInPlace) ∧
      (assemble "fun A.b():T:U".toList brokenTree).nodes.map Node.label =
        [(.file, 0), (.other "ERROR", 0), (.function ⟨some ⟨"b", 6⟩, some ⟨"T", 10⟩⟩, 0),
          (.identifier ⟨"A", 4⟩, 4), (.identifier ⟨"b", 6⟩, 6),
          (.other "function_value_parameters", 7), (.other "user_type", 10),
          (.other "user_type", 12)] ∧
      ∃ (j : Nat) (child : Node), 2 < j ∧
        (assemble "fun A.b():T:U".toList brokenTree).nodes[j]? = some child ∧
        child.kind = .identifier ⟨"b", 6⟩ ∧ child.offset = 6 := by
  have hplace : ∀ address c, Visible brokenTree address c → c.NamesInPlace := by
    have hlisting : ∀ p ∈ brokenTree.visibleNodes, p.2.NamesInPlace := by decide +kernel
    intro address c hc
    exact hlisting _ ((mem_visibleNodes brokenTree address c).mpr hc)
  have hlabels : (assemble "fun A.b():T:U".toList brokenTree).nodes.map Node.label =
      [(.file, 0), (.other "ERROR", 0), (.function ⟨some ⟨"b", 6⟩, some ⟨"T", 10⟩⟩, 0),
        (.identifier ⟨"A", 4⟩, 4), (.identifier ⟨"b", 6⟩, 6),
        (.other "function_value_parameters", 7), (.other "user_type", 10),
        (.other "user_type", 12)] := by decide +kernel
  refine ⟨hplace, hlabels, ?_⟩
  obtain ⟨node, hnode, hkind, -⟩ := exists_of_label (congrArg (·[2]?) hlabels)
  obtain ⟨-, -, hwalk⟩ := functions_showNames "fun A.b():T:U".toList hplace
  obtain ⟨j, child, hbehind, -, hj, hidentifier, hoffset⟩ := hwalk 2 node _ _ hnode hkind rfl
  exact ⟨j, child, hbehind, hj, hidentifier, hoffset⟩

end Kotlin
end NamingLint
