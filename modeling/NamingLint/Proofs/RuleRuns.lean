import Mathlib.Data.List.Basic
import Mathlib.Data.List.Induction
import Mathlib.Data.List.InsertIdx
import NamingLint.Rule.Basic

/-!
Runs of a rule over a listing of nodes. What a run says of a listing is what it says of an initial
part, followed by what it says of the rest from the state that the initial part leaves. This holds
of every rule, whatever its state.
-/

namespace NamingLint

open Syntax

namespace Findings

@[simp] theorem diagnostics_append (a b : Findings) :
    (a ++ b).diagnostics = a.diagnostics ++ b.diagnostics := rfl

theorem eq_of_parts {a b : Findings} (hd : a.diagnostics = b.diagnostics) (hl : a.log = b.log) :
    a = b := by
  cases a
  cases b
  simp_all

theorem empty_append (a : Findings) : ({} : Findings) ++ a = a := rfl

theorem append_assoc (a b c : Findings) : a ++ b ++ c = a ++ (b ++ c) :=
  eq_of_parts (List.append_assoc ..) (List.append_assoc ..)

end Findings

namespace Rule

variable (rule : Rule)

/-- The state in which a run leaves a listing. -/
def stateAfter (state : rule.State) (nodes : List Node) : rule.State :=
  nodes.foldl (fun state node => (rule.visit node state).state) state

theorem stateAfter_append (state : rule.State) (a b : List Node) :
    rule.stateAfter state (a ++ b) = rule.stateAfter (rule.stateAfter state a) b :=
  List.foldl_append

theorem visitAll_append (state : rule.State) (a b : List Node) :
    rule.visitAll state (a ++ b) =
      rule.visitAll state a ++ rule.visitAll (rule.stateAfter state a) b := by
  induction a generalizing state with
  | nil => exact (Findings.empty_append _).symm
  | cons node a ih =>
      simp only [List.cons_append, visitAll, ih, Findings.append_assoc]
      rfl

theorem diagnostics_visitAll_concat (state : rule.State) (nodes : List Node) (node : Node) :
    (rule.visitAll state (nodes ++ [node])).diagnostics =
      (rule.visitAll state nodes).diagnostics ++
        (rule.visit node (rule.stateAfter state nodes)).diagnostics := by
  simp [visitAll_append, visitAll]

/-- What the visit of the node at a position reports in a run over a listing. -/
def emittedAt (nodes : List Node) (i : Nat) : List Diagnostic :=
  match nodes[i]? with
  | some node => (rule.visit node (rule.stateAfter rule.initial (nodes.take i))).diagnostics
  | none => []

theorem emittedAt_append_left {nodes : List Node} {i : Nat} (h : i < nodes.length)
    (rest : List Node) : rule.emittedAt (nodes ++ rest) i = rule.emittedAt nodes i := by
  unfold emittedAt
  rw [List.getElem?_append_left h, List.take_append_of_le_length (Nat.le_of_lt h)]

theorem emittedAt_append_right (nodes rest : List Node) (i : Nat) :
    rule.emittedAt (nodes ++ rest) (nodes.length + i) =
      match rest[i]? with
      | some node =>
          (rule.visit node (rule.stateAfter rule.initial (nodes ++ rest.take i))).diagnostics
      | none => [] := by
  unfold emittedAt
  rw [List.getElem?_append_right (Nat.le_add_right _ _), Nat.add_sub_cancel_left,
    List.take_length_add_append]

theorem emittedAt_eraseIdx {nodes : List Node} {i j : Nat} (h : j < i) :
    rule.emittedAt (nodes.eraseIdx i) j = rule.emittedAt nodes j := by
  unfold emittedAt
  rw [List.getElem?_eraseIdx_of_lt h, List.take_eraseIdx_eq_take_of_le nodes j i (Nat.le_of_lt h)]

/-- A run reports what its visits report, one position after the other. -/
theorem visitAll_eq_flatMap (nodes : List Node) :
    (rule.visitAll rule.initial nodes).diagnostics =
      (List.range nodes.length).flatMap (rule.emittedAt nodes) := by
  induction nodes using List.reverseRecOn with
  | nil => rfl
  | append_singleton nodes node ih =>
      have hbefore : (List.range nodes.length).flatMap (rule.emittedAt (nodes ++ [node])) =
          (List.range nodes.length).flatMap (rule.emittedAt nodes) := by
        refine List.flatMap_congr fun i hi => ?_
        exact rule.emittedAt_append_left (List.mem_range.mp hi) [node]
      have hlast := rule.emittedAt_append_right nodes [node] 0
      rw [diagnostics_visitAll_concat, ih, List.length_append, List.length_singleton,
        List.range_succ, List.flatMap_append, hbefore]
      simpa using hlast.symm

end Rule
end NamingLint
