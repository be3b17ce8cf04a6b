import NamingLint.Syntax.Node

/-!
Document order. `preorder` says by recursion which nodes come in which order; `walk` visits them
with a stack of the subtrees still to come, so that a deep tree needs no deep recursion. The bound
of the walk is the number of nodes on the stack, which falls by one in every step.
-/

namespace NamingLint.Syntax

mutual

def Node.size : Node → Nat
  | .mk _ _ children => forestSize children + 1

def forestSize : List Node → Nat
  | [] => 0
  | node :: rest => node.size + forestSize rest

end

mutual

def Node.preorder : Node → List Node
  | .mk kind offset children => .mk kind offset children :: forestPreorder children

def forestPreorder : List Node → List Node
  | [] => []
  | node :: rest => node.preorder ++ forestPreorder rest

end

/-- Takes the topmost subtree apart: its root is visited, its children go on top of the rest. -/
def step? : List Node → Option (Node × List Node)
  | [] => none
  | node :: rest => some (node, node.children ++ rest)

def walkWithin : Nat → List Node → List Node
  | 0, _ => []
  | n + 1, stack =>
      match step? stack with
      | none => []
      | some (node, stack) => node :: walkWithin n stack

def walk (stack : List Node) : List Node :=
  walkWithin (forestSize stack) stack

def Node.nodes (node : Node) : List Node :=
  walk [node]

end NamingLint.Syntax
