import NamingLint.Syntax.Preorder

/-!
The walk with a stack lists what the recursion lists: one step takes the first node off the
preorder of the stack, and the number of nodes on the stack, which bounds the walk, falls with it.
What lies below a node stands right behind it in the listing.
-/

namespace NamingLint.Syntax

theorem forestSize_append (a b : List Node) :
    forestSize (a ++ b) = forestSize a + forestSize b := by
  induction a with
  | nil => simp [forestSize]
  | cons node a ih => simp only [List.cons_append, forestSize, ih]; omega

theorem forestPreorder_append (a b : List Node) :
    forestPreorder (a ++ b) = forestPreorder a ++ forestPreorder b := by
  induction a with
  | nil => rfl
  | cons node a ih => simp [forestPreorder, ih]

theorem preorder_eq (node : Node) :
    node.preorder = node :: forestPreorder node.children := by
  cases node
  simp [Node.preorder, Node.children]

theorem size_eq (node : Node) : node.size = forestSize node.children + 1 := by
  cases node
  simp [Node.size, Node.children]

theorem step?_eq_none {stack : List Node} (h : step? stack = none) : stack = [] := by
  cases stack with
  | nil => rfl
  | cons node rest => cases h

theorem forestPreorder_step {stack rest : List Node} {node : Node}
    (h : step? stack = some (node, rest)) :
    forestPreorder stack = node :: forestPreorder rest := by
  cases stack with
  | nil => cases h
  | cons top below =>
      obtain ⟨rfl, rfl⟩ : top = node ∧ top.children ++ below = rest := by simpa [step?] using h
      simp [forestPreorder, preorder_eq, forestPreorder_append]

theorem forestSize_step {stack rest : List Node} {node : Node}
    (h : step? stack = some (node, rest)) : forestSize stack = forestSize rest + 1 := by
  cases stack with
  | nil => cases h
  | cons top below =>
      obtain ⟨rfl, rfl⟩ : top = node ∧ top.children ++ below = rest := by simpa [step?] using h
      simp only [forestSize, size_eq, forestSize_append]
      omega

theorem length_forestPreorder (nodes : List Node) :
    (forestPreorder nodes).length = forestSize nodes := by
  induction hn : forestSize nodes using Nat.strongRecOn generalizing nodes with
  | _ n ih =>
      cases hs : step? nodes with
      | none => rw [step?_eq_none hs] at hn ⊢; exact hn
      | some seen =>
          have hsize := forestSize_step hs
          rw [forestPreorder_step hs, List.length_cons, ih _ (by omega) _ rfl]
          omega

/-- At the position of a node its own preorder begins. -/
theorem exists_forestPreorder_eq {nodes : List Node} {i : Nat} {node : Node}
    (h : (forestPreorder nodes)[i]? = some node) :
    ∃ front back, forestPreorder nodes = front ++ (node.preorder ++ back) ∧ front.length = i := by
  induction i generalizing nodes with
  | zero =>
      cases nodes with
      | nil => cases h
      | cons top rest =>
          rw [forestPreorder, preorder_eq] at h
          obtain rfl : top = node := by simpa using h
          exact ⟨[], forestPreorder rest, by simp [forestPreorder], rfl⟩
  | succ i ih =>
      cases nodes with
      | nil => cases h
      | cons top rest =>
          have hstep := forestPreorder_step (rfl : step? (top :: rest) = some _)
          rw [hstep, List.getElem?_cons_succ] at h
          obtain ⟨front, back, heq, hlength⟩ := ih h
          exact ⟨top :: front, back, by rw [hstep, heq]; rfl, by rw [List.length_cons, hlength]⟩

theorem walkWithin_eq_forestPreorder (n : Nat) (stack : List Node) (h : forestSize stack ≤ n) :
    walkWithin n stack = forestPreorder stack := by
  induction n generalizing stack with
  | zero =>
      cases hs : step? stack with
      | none => rw [step?_eq_none hs]; rfl
      | some seen =>
          have := forestSize_step hs
          omega
  | succ n ih =>
      cases hs : step? stack with
      | none => rw [step?_eq_none hs]; rfl
      | some seen =>
          have hsize := forestSize_step hs
          simp only [walkWithin, hs]
          rw [forestPreorder_step hs, ih seen.2 (by omega)]

theorem walk_eq_forestPreorder (stack : List Node) : walk stack = forestPreorder stack :=
  walkWithin_eq_forestPreorder _ stack (Nat.le_refl _)

theorem nodes_eq_preorder (tree : Node) : tree.nodes = tree.preorder := by
  rw [Node.nodes, walk_eq_forestPreorder]
  simp [forestPreorder]

theorem mem_forestPreorder {nodes : List Node} {node : Node} (h : node ∈ nodes) :
    node ∈ forestPreorder nodes := by
  induction nodes with
  | nil => cases h
  | cons top rest ih =>
      rw [forestPreorder, List.mem_append]
      rcases List.mem_cons.mp h with rfl | h
      · exact .inl (by simp [preorder_eq])
      · exact .inr (ih h)

/-- A child is visited after its parent, before anything that does not lie below the parent. -/
theorem exists_position_of_child {tree node child : Node} {i : Nat}
    (h : tree.nodes[i]? = some node) (hchild : child ∈ node.children) :
    ∃ j, i < j ∧ j < i + node.size ∧ tree.nodes[j]? = some child := by
  have htree : tree.nodes = forestPreorder [tree] := by simp [nodes_eq_preorder, forestPreorder]
  rw [htree] at h ⊢
  obtain ⟨front, back, heq, rfl⟩ := exists_forestPreorder_eq h
  obtain ⟨k, hk⟩ := List.getElem?_of_mem (mem_forestPreorder hchild)
  have hlt : k < forestSize node.children := by
    rw [← length_forestPreorder]
    exact (List.getElem?_eq_some_iff.mp hk).1
  refine ⟨front.length + (k + 1), by omega, by rw [size_eq]; omega, ?_⟩
  rw [heq, List.getElem?_append_right (Nat.le_add_right _ _), Nat.add_sub_cancel_left, preorder_eq,
    List.cons_append, List.getElem?_cons_succ, List.getElem?_append_left (by
      rw [length_forestPreorder]; exact hlt)]
  exact hk

end NamingLint.Syntax
