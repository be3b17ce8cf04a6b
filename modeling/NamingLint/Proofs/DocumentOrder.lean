import NamingLint.Proofs.Preorder

/-!
The walk with a stack, step by step. What a run has visited and what its stack still holds always
make up the listing of the stack it began with, so a run comes to an end, after as many steps as
there are nodes. Nodes that look alike are told apart by their addresses, the child positions that
lead from the root to them. What is done with the nodes is not treated here.
-/

namespace NamingLint.Syntax

/-- From the first stack the nodes are visited in this order, and then the last stack is left. -/
inductive Visits : List Node → List Node → List Node → Prop
  | done (stack : List Node) : Visits stack [] stack
  | next {stack below rest seen : List Node} {node : Node}
      (top : step? stack = some (node, below)) (more : Visits below seen rest) :
      Visits stack (node :: seen) rest

theorem forestPreorder_eq_flatMap (nodes : List Node) :
    forestPreorder nodes = nodes.flatMap Node.preorder := by
  induction nodes with
  | nil => rfl
  | cons node rest ih => rw [forestPreorder, ih, List.flatMap_cons]

theorem step?_eq_none_iff (stack : List Node) : step? stack = none ↔ stack = [] :=
  ⟨step?_eq_none, fun h => by rw [h]; rfl⟩

/-- Nothing is lost and nothing comes up twice along a run. -/
theorem Visits.listing {stack seen rest : List Node} (h : Visits stack seen rest) :
    seen ++ forestPreorder rest = forestPreorder stack := by
  induction h with
  | done stack => rfl
  | next top more ih => rw [List.cons_append, ih, forestPreorder_step top]

/-- A run never has more steps than there are nodes on the stack. -/
theorem Visits.length {stack seen rest : List Node} (h : Visits stack seen rest) :
    seen.length + forestSize rest = forestSize stack := by
  rw [← length_forestPreorder, ← length_forestPreorder, ← h.listing, List.length_append]

theorem visits_forestPreorder (stack : List Node) : Visits stack (forestPreorder stack) [] := by
  induction hn : forestSize stack using Nat.strongRecOn generalizing stack with
  | _ n ih =>
      cases hs : step? stack with
      | none =>
          obtain rfl := step?_eq_none hs
          exact .done []
      | some visited =>
          have hsize := forestSize_step hs
          rw [forestPreorder_step hs]
          exact .next hs (ih _ (by omega) visited.2 rfl)

/-- A node comes before all that lies below it, and all at and below a child before all at and
below a later child. -/
inductive Precedes : List Nat → List Nat → Prop
  | above (a : List Nat) (i : Nat) (below : List Nat) : Precedes a (a ++ i :: below)
  | aside (above : List Nat) {i j : Nat} (a b : List Nat) (h : i < j) :
      Precedes (above ++ i :: a) (above ++ j :: b)

theorem Precedes.cons {a b : List Nat} (h : Precedes a b) (i : Nat) :
    Precedes (i :: a) (i :: b) := by
  cases h with
  | above _ j below => exact .above (i :: a) j below
  | aside above a b h => exact .aside (i :: above) a b h

theorem Precedes.lt {a b : List Nat} (h : Precedes a b) : a < b := by
  have hbehind (above : List Nat) {a b : List Nat} (h : a < b) : above ++ a < above ++ b := by
    induction above with
    | nil => exact h
    | cons i above ih => exact List.Lex.cons ih
  cases h with
  | above _ i below => simpa using hbehind a (List.Lex.nil (a := i) (l := below))
  | aside above a b h => exact hbehind above (List.Lex.rel h)

namespace Node

def get? : List Nat → Node → Option Node
  | [], node => some node
  | i :: rest, node => node.children[i]?.bind (get? rest)

mutual

/-- The nodes in the order of their recursive listing, each with its address. -/
def addressed : Node → List (List Nat × Node)
  | .mk kind offset children => ([], .mk kind offset children) :: addressedFrom 0 children

def addressedFrom : Nat → List Node → List (List Nat × Node)
  | _, [] => []
  | i, node :: rest =>
      (node.addressed.map fun p => (i :: p.1, p.2)) ++ addressedFrom (i + 1) rest

end

theorem addressed_eq (node : Node) :
    node.addressed = ([], node) :: addressedFrom 0 node.children := by
  cases node
  simp [addressed, children]

mutual

theorem map_addressed : (node : Node) → node.addressed.map Prod.snd = node.preorder
  | .mk kind offset children => by
      rw [addressed, preorder, List.map_cons, map_addressedFrom 0 children]

theorem map_addressedFrom (i : Nat) :
    (nodes : List Node) → (addressedFrom i nodes).map Prod.snd = forestPreorder nodes
  | [] => rfl
  | node :: rest => by
      rw [addressedFrom, forestPreorder, List.map_append, List.map_map,
        map_addressedFrom (i + 1) rest, ← map_addressed node]
      rfl

end

theorem mem_addressedFrom (i : Nat) (nodes : List Node) (address : List Nat) (node : Node) :
    (address, node) ∈ addressedFrom i nodes ↔
      ∃ j child below, nodes[j]? = some child ∧ (below, node) ∈ child.addressed ∧
        address = (i + j) :: below := by
  induction nodes generalizing i with
  | nil => simp [addressedFrom]
  | cons top rest ih =>
      rw [addressedFrom, List.mem_append, ih]
      constructor
      · rintro (h | ⟨j, child, below, hchild, hmem, rfl⟩)
        · obtain ⟨p, hmem, heq⟩ := List.mem_map.mp h
          obtain ⟨rfl, rfl⟩ := Prod.mk.inj heq
          exact ⟨0, top, p.1, rfl, hmem, rfl⟩
        · exact ⟨j + 1, child, below, hchild, hmem, by rw [Nat.add_right_comm]; rfl⟩
      · intro h
        obtain ⟨j, child, below, hchild, hmem, rfl⟩ := h
        cases j with
        | zero =>
            obtain rfl := Option.some.inj hchild
            exact .inl (List.mem_map.mpr ⟨(below, node), hmem, rfl⟩)
        | succ j =>
            exact .inr ⟨j, child, below, hchild, hmem, by rw [Nat.add_right_comm]; rfl⟩

theorem mem_addressed (tree : Node) (address : List Nat) (node : Node) :
    (address, node) ∈ tree.addressed ↔ tree.get? address = some node := by
  induction address generalizing tree with
  | nil =>
      rw [addressed_eq, List.mem_cons, mem_addressedFrom]
      constructor
      · rintro (h | ⟨j, child, below, -, -, h⟩)
        · rw [(Prod.mk.inj h).2]
          rfl
        · cases h
      · intro h
        exact .inl (by rw [Option.some.inj h])
  | cons i rest ih =>
      rw [addressed_eq, List.mem_cons, mem_addressedFrom, get?, Option.bind_eq_some_iff]
      constructor
      · rintro (h | ⟨j, child, below, hchild, hmem, h⟩)
        · cases h
        · obtain ⟨rfl, rfl⟩ := List.cons.inj h
          exact ⟨child, by simpa using hchild, (ih child).mp hmem⟩
      · intro h
        obtain ⟨child, hchild, hget⟩ := h
        exact .inr ⟨i, child, rest, hchild, (ih child).mpr hget, by simp⟩

theorem le_of_mem_addressedFrom {i : Nat} {nodes : List Node} {p : List Nat × Node}
    (h : p ∈ addressedFrom i nodes) : ∃ j below, i ≤ j ∧ p.1 = j :: below := by
  obtain ⟨j, child, below, -, -, heq⟩ := (mem_addressedFrom i nodes p.1 p.2).mp h
  exact ⟨i + j, below, Nat.le_add_right i j, heq⟩

mutual

theorem pairwise_addressed :
    (node : Node) → node.addressed.Pairwise fun p q => Precedes p.1 q.1
  | .mk kind offset children => by
      rw [addressed]
      refine List.pairwise_cons.mpr ⟨fun p hp => ?_, pairwise_addressedFrom 0 children⟩
      obtain ⟨j, below, -, hp⟩ := le_of_mem_addressedFrom hp
      rw [hp]
      exact .above [] j below

theorem pairwise_addressedFrom (i : Nat) :
    (nodes : List Node) → (addressedFrom i nodes).Pairwise fun p q => Precedes p.1 q.1
  | [] => .nil
  | node :: rest => by
      refine List.pairwise_append.mpr ⟨?_, pairwise_addressedFrom (i + 1) rest, ?_⟩
      · exact List.pairwise_map.mpr ((pairwise_addressed node).imp fun h => h.cons i)
      · intro p hp q hq
        obtain ⟨r, -, rfl⟩ := List.mem_map.mp hp
        obtain ⟨j, below, hj, hq⟩ := le_of_mem_addressedFrom hq
        rw [hq]
        exact .aside [] r.1 below hj

end

/-- The order of the addresses and that of the positions in the listing are one. -/
theorem precedes_iff_lt {tree : Node} {m n : Nat} {p q : List Nat × Node}
    (hp : tree.addressed[m]? = some p) (hq : tree.addressed[n]? = some q) :
    Precedes p.1 q.1 ↔ m < n := by
  obtain ⟨hm, rfl⟩ := List.getElem?_eq_some_iff.mp hp
  obtain ⟨hn, rfl⟩ := List.getElem?_eq_some_iff.mp hq
  have hsorted := List.pairwise_iff_getElem.mp (pairwise_addressed tree)
  constructor
  · intro h
    rcases Nat.lt_trichotomy m n with hlt | rfl | hgt
    · exact hlt
    · exact absurd h.lt (List.lt_irrefl _)
    · exact absurd (hsorted n m hn hm hgt).lt (List.lt_asymm h.lt)
  · exact hsorted m n hm hn

end Node

/-- The walk with a stack ends on every stack, also on one that a run has reached, and lists the
subtrees of the stack from the top down, each as the recursion does. Of a single tree it lists every
node once, a node before what lies below it and the children with all that is theirs in their
order. -/
theorem walk_documentOrder :
    (∀ stack : List Node,
      walk stack = stack.flatMap Node.preorder ∧
      Visits stack (stack.flatMap Node.preorder) [] ∧
      ∀ seen rest, Visits stack seen rest →
        seen ++ rest.flatMap Node.preorder = stack.flatMap Node.preorder ∧
        seen.length + forestSize rest = forestSize stack ∧
        (step? rest = none ↔ rest = [])) ∧
    ∀ tree : Node,
      tree.nodes = tree.preorder ∧
      tree.nodes.length = tree.size ∧
      ∃ listing : List (List Nat × Node),
        listing.map Prod.snd = tree.nodes ∧
        (∀ address node, (address, node) ∈ listing ↔ tree.get? address = some node) ∧
        ∀ (m n : Nat) p q, listing[m]? = some p → listing[n]? = some q →
          (Precedes p.1 q.1 ↔ m < n) := by
  refine ⟨fun stack => ?_, fun tree => ⟨nodes_eq_preorder tree, ?_, tree.addressed, ?_,
    tree.mem_addressed, fun m n p q => Node.precedes_iff_lt⟩⟩
  · simp only [← forestPreorder_eq_flatMap]
    exact ⟨walk_eq_forestPreorder stack, visits_forestPreorder stack,
      fun seen rest h => ⟨h.listing, h.length, step?_eq_none_iff rest⟩⟩
  · rw [Node.nodes, walk_eq_forestPreorder, length_forestPreorder]
    simp [forestSize]
  · rw [nodes_eq_preorder, tree.map_addressed]

/-- A file with two classes that look alike, each with one function. -/
def twins : Node :=
  let twin := Node.mk (.other "class_declaration") 0 [.mk (.function {}) 6 []]
  .mk .file 0 [twin, twin]

/-- When the walk has come to the function of the first class, that function and the second class
are on the stack; three nodes are still to come, and the two functions are listed apart. -/
theorem walk_twins :
    ∃ first second : Node,
      Visits [twins] [twins, second] [first, second] ∧
      walk [first, second] = [first, second, first] ∧
      2 + forestSize [first, second] = 5 ∧
      twins.nodes.length = 5 ∧
      ∃ listing : List (List Nat × Node),
        listing.map Prod.snd = twins.nodes ∧
        ([0, 0], first) ∈ listing ∧ ([1], second) ∈ listing ∧ ([1, 0], first) ∈ listing ∧
        Precedes [0, 0] [1] ∧ Precedes [1] [1, 0] := by
  obtain ⟨hstack, htree⟩ := walk_documentOrder
  obtain ⟨-, hlength, listing, hlisting, hmem, -⟩ := htree twins
  have hrun : Visits [twins] [twins, _] [.mk (.function {}) 6 [], _] :=
    .next rfl (.next rfl (.done _))
  obtain ⟨-, -, hruns⟩ := hstack [twins]
  obtain ⟨-, hsize, -⟩ := hruns _ _ hrun
  refine ⟨_, _, hrun, (hstack _).1, hsize, hlength, listing, hlisting, (hmem _ _).mpr rfl,
    (hmem _ _).mpr rfl, (hmem _ _).mpr rfl, ?_, ?_⟩
  · exact .aside [] [0] [] Nat.zero_lt_one
  · exact .above [1] 0 []

end NamingLint.Syntax
