import Mathlib.Logic.Relation
import NamingLint.Kotlin.Lowering
import NamingLint.Proofs.Preorder

/-!
Assembling a tree with a stack of half-built nodes against the recursion. A frame stands for a
node whose first children are lowered and whose others are still to come; a stack stands for the
tree that arises when every frame is completed and hung into the one below it. No step changes
that tree, and every step costs one unit of a count that the kept nodes determine.
-/

namespace NamingLint.Kotlin

open Syntax

namespace Concrete

theorem lowerKept_eq (source : List Char) (children : List Concrete) :
    lowerKept source children = (children.filter isKept).map (lower source) := by
  induction children with
  | nil => rfl
  | cons c rest ih =>
      cases h : c.isKept with
      | true => simp [lowerKept, h, ih]
      | false => simp [lowerKept, h, ih]

theorem lower_eq (source : List Char) (c : Concrete) :
    lower source c =
      .mk (c.nodeKind source) c.head.start.toUInt32 (c.kept.map (lower source)) := by
  obtain ⟨head, children⟩ := c
  simp only [lower, lowerKept_eq]
  rfl

/-- A node has a smaller size than the list it is in allows, so induction reaches the children. -/
theorem size_le_sizeAll {c : Concrete} {children : List Concrete} (h : c ∈ children) :
    c.size ≤ sizeAll children := by
  induction children with
  | nil => cases h
  | cons d rest ih =>
      simp only [sizeAll]
      rcases List.mem_cons.mp h with rfl | h
      · omega
      · have := ih h
        omega

theorem induct {motive : Concrete → Prop}
    (node : ∀ head children, (∀ c ∈ children, motive c) → motive (.node head children))
    (c : Concrete) : motive c := by
  induction hn : c.size using Nat.strongRecOn generalizing c with
  | _ n ih =>
      obtain ⟨head, children⟩ := c
      refine node head children fun d hd => ih d.size ?_ d rfl
      have := size_le_sizeAll hd
      simp only [size] at hn
      omega

end Concrete

open Concrete

/-- The node of a frame when its pending children are lowered too. -/
def Frame.node (source : List Char) (frame : Frame) : Node :=
  .mk frame.kind frame.offset (frame.lowered.reverse ++ frame.pending.map (lower source))

/-- The tree that arises from a node when the frames around it are completed. -/
def enclose (source : List Char) : Node → List Frame → Node
  | tree, [] => tree
  | tree, parent :: outer => enclose source ((parent.push tree).node source) outer

theorem node_ofConcrete (source : List Char) (c : Concrete) :
    (Frame.ofConcrete source c).node source = lower source c := by
  rw [lower_eq]
  rfl

theorem close_eq_node (source : List Char) (frame : Frame) (h : frame.pending = []) :
    frame.close = frame.node source := by
  simp [Frame.close, Frame.node, h]

/-- Lowering the first pending child does not change what a frame stands for. -/
theorem node_push_pending (source : List Char) (frame : Frame) (child : Concrete)
    (rest : List Concrete) (h : frame.pending = child :: rest) :
    ({ frame with pending := rest }.push (lower source child)).node source =
      frame.node source := by
  simp [Frame.node, Frame.push, h]

/-- The steps that a stack still takes: one for each frame, two for each node to come. -/
def work (source : List Char) : List Frame → Nat
  | [] => 0
  | frame :: outer => 1 + 2 * forestSize (frame.pending.map (lower source)) + work source outer

theorem size_lower (source : List Char) (c : Concrete) :
    (lower source c).size = forestSize (c.kept.map (lower source)) + 1 := by
  rw [lower_eq, Node.size]

theorem work_ofConcrete (source : List Char) (c : Concrete) (outer : List Frame) :
    work source (.ofConcrete source c :: outer) + 1 =
      2 * (lower source c).size + work source outer := by
  simp only [work, Frame.ofConcrete, size_lower]
  omega

def Opens (source : List Char) (stack next : List Frame) : Prop :=
  ∃ frame outer child rest, stack = frame :: outer ∧ frame.pending = child :: rest ∧
    next = .ofConcrete source child :: { frame with pending := rest } :: outer

def Closes (stack next : List Frame) : Prop :=
  ∃ frame parent outer, stack = frame :: parent :: outer ∧ frame.pending = [] ∧
    next = parent.push frame.close :: outer

/-- All that a step can do. -/
theorem advance_cases (source : List Char) (stack : List Frame) :
    (stack = [] ∧ advance source stack = .stuck) ∨
    (∃ frame, stack = [frame] ∧ frame.pending = [] ∧
      advance source stack = .finished frame.close) ∨
    (∃ next, (Opens source stack next ∨ Closes stack next) ∧
      advance source stack = .running next) := by
  cases stack with
  | nil => exact .inl ⟨rfl, rfl⟩
  | cons frame outer =>
      cases hp : frame.pending with
      | cons child rest =>
          refine .inr (.inr ⟨_, .inl ⟨frame, outer, child, rest, rfl, hp, rfl⟩, ?_⟩)
          simp [advance, hp]
      | nil =>
          cases outer with
          | nil => exact .inr (.inl ⟨frame, rfl, hp, by simp [advance, hp]⟩)
          | cons parent outer =>
              refine .inr (.inr ⟨_, .inr ⟨frame, parent, outer, rfl, hp, rfl⟩, ?_⟩)
              simp [advance, hp]

/-- The stack stands for `tree` and has `n` steps to go. -/
structure Builds (source : List Char) (stack : List Frame) (tree : Node) (n : Nat) : Prop where
  stands : ∃ frame outer, stack = frame :: outer ∧ enclose source (frame.node source) outer = tree
  steps : work source stack = n

theorem builds_ofConcrete (source : List Char) (c : Concrete) :
    Builds source [.ofConcrete source c] (lower source c) (2 * (lower source c).size - 1) where
  stands := ⟨_, [], rfl, node_ofConcrete source c⟩
  steps := by
    have := work_ofConcrete source c []
    simp only [work] at this ⊢
    omega

theorem Builds.running {source : List Char} {stack next : List Frame} {tree : Node} {n : Nat}
    (h : Builds source stack tree (n + 1)) (hstep : Opens source stack next ∨ Closes stack next) :
    Builds source next tree n := by
  obtain ⟨⟨top, below, rfl, htree⟩, hwork⟩ := h
  rcases hstep with ⟨frame, outer, child, rest, hstack, hp, rfl⟩ |
    ⟨frame, parent, outer, hstack, hp, rfl⟩
  · obtain ⟨rfl, rfl⟩ := List.cons.inj hstack
    refine ⟨⟨_, _, rfl, ?_⟩, ?_⟩
    · rw [enclose, node_ofConcrete, node_push_pending source top child rest hp]
      exact htree
    · have hopen := work_ofConcrete source child ({ top with pending := rest } :: below)
      simp only [work, hp, List.map_cons, forestSize] at hwork hopen ⊢
      omega
  · obtain ⟨rfl, rfl⟩ := List.cons.inj hstack
    refine ⟨⟨_, _, rfl, ?_⟩, ?_⟩
    · rw [close_eq_node source top hp]
      exact htree
    · simp only [work, hp, List.map_nil, forestSize, Frame.push] at hwork ⊢
      omega

theorem assembleWithin_of_builds {source : List Char} {stack : List Frame} {tree : Node}
    {n m : Nat} (h : Builds source stack tree n) (hm : n ≤ m) :
    assembleWithin source m stack = some tree := by
  induction m generalizing stack n with
  | zero =>
      obtain ⟨⟨frame, outer, rfl, -⟩, hwork⟩ := h
      simp only [work] at hwork
      omega
  | succ m ih =>
      rcases advance_cases source stack with ⟨rfl, -⟩ | ⟨frame, rfl, hp, hstep⟩ |
        ⟨next, hnext, hstep⟩
      · obtain ⟨⟨_, _, hstack, -⟩, -⟩ := h
        cases hstack
      · obtain ⟨⟨top, outer, hstack, htree⟩, -⟩ := h
        obtain ⟨rfl, rfl⟩ := List.cons.inj hstack
        simp only [assembleWithin, hstep]
        rw [close_eq_node source frame hp]
        exact congrArg some htree
      · obtain ⟨k, rfl⟩ : ∃ k, n = k + 1 := by
          obtain ⟨⟨frame, outer, rfl, -⟩, hwork⟩ := h
          simp only [work] at hwork
          exact ⟨n - 1, by omega⟩
        simp only [assembleWithin, hstep]
        exact ih (h.running hnext) (by omega)

end NamingLint.Kotlin
