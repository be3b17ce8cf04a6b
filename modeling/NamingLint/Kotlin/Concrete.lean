/-!
Concrete syntax trees of Kotlin sources: every token is a leaf, every node covers a range of
octets, and what does not belong to the grammar of its parent (a comment, text that could not be
read) is marked as extra. Names are looked up by the role that a child has in its parent. Nothing
here says that the ranges of children lie inside their parent or in order.
-/

namespace NamingLint.Kotlin

inductive Role where
  | plain
  | name
  deriving Repr, DecidableEq

structure Head where
  kind : String
  named : Bool
  extra : Bool := false
  role : Role := .plain
  start : Nat
  stop : Nat
  deriving Repr, DecidableEq

/-- Text that could not be read. -/
def Head.isError (head : Head) : Bool :=
  head.kind == "ERROR"

inductive Concrete where
  | node (head : Head) (children : List Concrete)

namespace Concrete

def head : Concrete → Head
  | node head _ => head

def children : Concrete → List Concrete
  | node _ children => children

def kind (c : Concrete) : String := c.head.kind

mutual

def decEq : (c d : Concrete) → Decidable (c = d)
  | node head children, node head' children' =>
      if hhead : head = head' then
        match decEqAll children children' with
        | .isTrue hchildren => .isTrue (by rw [hhead, hchildren])
        | .isFalse hne => .isFalse fun h => hne (Concrete.node.inj h).2
      else .isFalse fun h => hhead (Concrete.node.inj h).1

def decEqAll : (a b : List Concrete) → Decidable (a = b)
  | [], [] => .isTrue rfl
  | [], _ :: _ | _ :: _, [] => .isFalse nofun
  | c :: a, d :: b =>
      match decEq c d, decEqAll a b with
      | .isTrue hfirst, .isTrue hrest => .isTrue (by rw [hfirst, hrest])
      | .isFalse hne, _ => .isFalse fun h => hne (List.cons.inj h).1
      | _, .isFalse hne => .isFalse fun h => hne (List.cons.inj h).2

end

instance : DecidableEq Concrete := decEq

mutual

def size : Concrete → Nat
  | node _ children => sizeAll children + 1

def sizeAll : List Concrete → Nat
  | [] => 0
  | c :: rest => c.size + sizeAll rest

end

end Concrete
end NamingLint.Kotlin
