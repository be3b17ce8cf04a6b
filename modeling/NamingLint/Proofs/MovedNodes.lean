import Mathlib.Data.List.Forall2
import NamingLint.Proofs.TextualOrder

/-!
Nodes at other places. A node that stands elsewhere with the same text, and its children likewise,
is lowered to the same nodes but for the offsets in them, and the naming rule only passes offsets
on. Where a node has come to stand is not said here.
-/

namespace NamingLint

namespace Syntax

def Token.unplaced (token : Token) : Token := { token with offset := 0 }

def FunctionDeclaration.unplaced (f : FunctionDeclaration) : FunctionDeclaration where
  name := f.name.map Token.unplaced
  returnType := f.returnType.map Token.unplaced

/-- What a node is, without the places in it. -/
def NodeKind.unplaced : NodeKind → NodeKind
  | .function f => .function f.unplaced
  | .identifier token => .identifier token.unplaced
  | .file => .file
  | .importDirective path => .importDirective path
  | .other tag => .other tag

def Node.unplaced (node : Node) : Node :=
  .mk node.kind.unplaced 0 []

theorem FunctionDeclaration.nameText_unplaced (f : FunctionDeclaration) :
    f.unplaced.nameText = f.nameText := by
  rcases f with ⟨_ | token, returnType⟩ <;> rfl

theorem FunctionDeclaration.returnText?_unplaced (f : FunctionDeclaration) :
    f.unplaced.returnText? = f.returnText? := by
  rcases f with ⟨name, _ | token⟩ <;> rfl

end Syntax

def Diagnostic.unplaced (d : Diagnostic) : Diagnostic := { d with offset := 0 }

namespace FunctionName

open Syntax

theorem isAllowed_unplaced (state : FileState) (f : FunctionDeclaration) :
    isAllowed state f.unplaced = isAllowed state f := by
  simp only [isAllowed, isFactory, f.nameText_unplaced, f.returnText?_unplaced]

theorem checkFunction_unplaced (state : FileState) (f : FunctionDeclaration) :
    (checkFunction state f.unplaced).map Diagnostic.unplaced =
      (checkFunction state f).map Diagnostic.unplaced := by
  unfold checkFunction
  rw [isAllowed_unplaced]
  split <;> rfl

/-- The rule passes the places on that it finds in a node, and does nothing else with them. -/
theorem visit_unplaced (node : Node) (state : FileState) :
    (visit node.unplaced state).state = (visit node state).state ∧
      (visit node.unplaced state).diagnostics.map Diagnostic.unplaced =
        (visit node state).diagnostics.map Diagnostic.unplaced := by
  have hkind : node.unplaced.kind = node.kind.unplaced := rfl
  unfold visit
  rw [hkind]
  cases node.kind with
  | file | importDirective path | identifier token | other tag => exact ⟨rfl, rfl⟩
  | function f =>
      refine ⟨rfl, ?_⟩
      have hcheck := congrArg Option.toList (checkFunction_unplaced state f)
      simpa [NodeKind.unplaced, Option.toList_map] using hcheck

theorem stateAfter_unplaced (nodes : List Node) :
    stateAfter (nodes.map Node.unplaced) = stateAfter nodes := by
  induction nodes using List.reverseRecOn with
  | nil => rfl
  | append_singleton nodes node ih =>
      rw [List.map_append, List.map_singleton, stateAfter_concat, stateAfter_concat, ih]
      exact (visit_unplaced node _).1

theorem emittedAt_unplaced (nodes : List Node) (j : Nat) :
    (rule.emittedAt (nodes.map Node.unplaced) j).map Diagnostic.unplaced =
      (rule.emittedAt nodes j).map Diagnostic.unplaced := by
  unfold Rule.emittedAt
  rw [List.getElem?_map, ← List.map_take]
  cases nodes[j]? with
  | none => rfl
  | some node =>
      change (visit node.unplaced
          (stateAfter ((nodes.take j).map Node.unplaced))).diagnostics.map Diagnostic.unplaced =
        (visit node (stateAfter (nodes.take j))).diagnostics.map Diagnostic.unplaced
      rw [stateAfter_unplaced]
      exact (visit_unplaced node _).2

end FunctionName

namespace Kotlin

open Syntax

def Head.unplaced (head : Head) : Head := { head with start := 0, stop := 0 }

namespace Concrete

variable (source source' : List Char)

mutual

/-- Whether two nodes are the same, with the same texts, but for their places in two sources. -/
def isMoved : Concrete → Concrete → Bool
  | node head children, node head' children' =>
      decide (head.unplaced = head'.unplaced) &&
        decide (Text.slice source head.start head.stop =
          Text.slice source' head'.start head'.stop) &&
        areMoved children children'

def areMoved : List Concrete → List Concrete → Bool
  | [], [] => true
  | c :: rest, d :: rest' => isMoved c d && areMoved rest rest'
  | [], _ :: _ | _ :: _, [] => false

end

def Moved (c d : Concrete) : Prop := isMoved source source' c d = true

instance (c d : Concrete) : Decidable (Moved source source' c d) :=
  inferInstanceAs (Decidable (_ = true))

variable {source source'}

theorem areMoved_iff (a b : List Concrete) :
    areMoved source source' a b = true ↔ List.Forall₂ (Moved source source') a b := by
  induction a generalizing b with
  | nil => cases b <;> simp [areMoved]
  | cons c a ih => cases b <;> simp [areMoved, Moved, ih]

theorem moved_iff (c d : Concrete) :
    Moved source source' c d ↔ c.head.unplaced = d.head.unplaced ∧
      c.text source = d.text source' ∧
      List.Forall₂ (Moved source source') c.children d.children := by
  obtain ⟨head, children⟩ := c
  obtain ⟨head', children'⟩ := d
  rw [← areMoved_iff, Moved, isMoved, Bool.and_eq_true, Bool.and_eq_true, decide_eq_true_eq,
    decide_eq_true_eq, and_assoc]
  rfl

/-- In lists whose members correspond, the first ones that pass correspond. -/
theorem find?_of_forall₂ {α β : Type} {R : α → β → Prop} {p : α → Bool} {q : β → Bool}
    (hpq : ∀ x y, R x y → p x = q y) {a : List α} {b : List β} (h : List.Forall₂ R a b) :
    Option.Rel R (a.find? p) (b.find? q) := by
  induction h with
  | nil => exact .none
  | @cons x y a b h _ ih =>
      rw [List.find?_cons, List.find?_cons, ← hpq x y h]
      cases p x with
      | true => exact .some h
      | false => exact ih

section

variable {c d : Concrete}

theorem kind_of_unplaced (h : c.head.unplaced = d.head.unplaced) : c.kind = d.kind :=
  (congrArg Head.kind h :)

theorem named_of_unplaced (h : c.head.unplaced = d.head.unplaced) : c.head.named = d.head.named :=
  (congrArg Head.named h :)

theorem extra_of_unplaced (h : c.head.unplaced = d.head.unplaced) : c.head.extra = d.head.extra :=
  (congrArg Head.extra h :)

theorem role_of_unplaced (h : c.head.unplaced = d.head.unplaced) : c.head.role = d.head.role :=
  (congrArg Head.role h :)

theorem isKept_of_unplaced (h : c.head.unplaced = d.head.unplaced) : c.isKept = d.isKept := by
  have hkind : c.head.kind = d.head.kind := kind_of_unplaced h
  simp only [isKept, Head.isError, hkind, named_of_unplaced h, extra_of_unplaced h]

end

namespace Moved

variable {c d : Concrete} {a b : List Concrete}

theorem unplaced (h : Moved source source' c d) : c.head.unplaced = d.head.unplaced :=
  ((moved_iff c d).mp h).1

theorem text (h : Moved source source' c d) : c.text source = d.text source' :=
  ((moved_iff c d).mp h).2.1

theorem children (h : Moved source source' c d) :
    List.Forall₂ (Moved source source') c.children d.children :=
  ((moved_iff c d).mp h).2.2

theorem token (h : Moved source source' c d) :
    (c.token source).unplaced = (d.token source').unplaced := by
  simp only [Concrete.token, Token.unplaced, h.text]

theorem proper (h : List.Forall₂ (Moved source source') a b) :
    List.Forall₂ (Moved source source') (proper a) (proper b) :=
  List.rel_filter (fun _ _ h => by simp [extra_of_unplaced h.unplaced]) h

theorem pathText (h : List.Forall₂ (Moved source source') a b) (read : List Char) :
    pathText source read a = pathText source' read b := by
  induction h generalizing read with
  | nil => rfl
  | cons h _ ih => simp only [Concrete.pathText, kind_of_unplaced h.unplaced, h.text, ih]

theorem importPath (h : List.Forall₂ (Moved source source') a b) :
    importPath source a = importPath source' b := by
  simp only [Concrete.importPath, pathText (proper h)]

theorem isIdentifier (h : Moved source source' c d) : c.isIdentifier = d.isIdentifier := by
  simp only [Concrete.isIdentifier, kind_of_unplaced h.unplaced]

theorem nameField? (h : List.Forall₂ (Moved source source') a b) :
    Option.Rel (Moved source source') (nameField? a) (nameField? b) := by
  have hfound := find?_of_forall₂ (R := Moved source source') (p := fun c => c.head.role == .name)
    (q := fun d => d.head.role == .name)
    (fun _ _ h => by simp only [role_of_unplaced h.unplaced]) h
  unfold Concrete.nameField?
  generalize a.find? (fun c => c.head.role == .name) = x at hfound ⊢
  generalize b.find? (fun c => c.head.role == .name) = y at hfound ⊢
  cases hfound with
  | none => exact .none
  | some h =>
      rw [Option.filter_some, Option.filter_some, h.isIdentifier]
      split
      · exact .some h
      · exact .none

end Moved

/-- Signatures that were read so far alike. -/
structure SameSignature (source source' : List Char) (seen seen' : Signature) : Prop where
  name : Option.Rel (Moved source source') seen.name seen'.name
  returnType : Option.Rel (Moved source source') seen.returnType seen'.returnType
  seenParameters : seen.seenParameters = seen'.seenParameters
  afterColon : seen.afterColon = seen'.afterColon

theorem sameSignature_readSignature (namedByField : Bool) {seen seen' : Signature}
    (hseen : SameSignature source source' seen seen') {a b : List Concrete}
    (h : List.Forall₂ (Moved source source') a b) :
    SameSignature source source' (readSignature namedByField seen a)
      (readSignature namedByField seen' b) := by
  induction h generalizing seen seen' with
  | nil => exact hseen
  | @cons c d a b h _ ih =>
      obtain ⟨name, returnType, seenParameters, afterColon⟩ := seen
      obtain ⟨name', returnType', seenParameters', afterColon'⟩ := seen'
      obtain ⟨hname, htype, hparameters, hcolon⟩ := hseen
      obtain rfl : seenParameters = seenParameters' := hparameters
      obtain rfl : afterColon = afterColon' := hcolon
      have hisParameters : c.isParameters = d.isParameters := by
        simp only [isParameters, kind_of_unplaced h.unplaced]
      simp only [readSignature, kind_of_unplaced h.unplaced, named_of_unplaced h.unplaced,
        extra_of_unplaced h.unplaced, hisParameters, h.isIdentifier]
      split
      · exact ih ⟨hname, htype, rfl, rfl⟩
      split
      · split
        · exact ih ⟨hname, htype, rfl, rfl⟩
        split
        · exact ih ⟨.some h, htype, rfl, rfl⟩
        · exact ih ⟨hname, htype, rfl, rfl⟩
      split
      · exact ih ⟨hname, htype, rfl, rfl⟩
      split
      · exact ⟨hname, .some h, rfl, rfl⟩
      · exact ⟨hname, htype, rfl, rfl⟩

theorem isSome_of_rel {x y : Option Concrete} (h : Option.Rel (Moved source source') x y) :
    x.isSome = y.isSome := by
  cases h <;> rfl

theorem map_token_of_rel {x y : Option Concrete} (h : Option.Rel (Moved source source') x y) :
    (x.map (token source)).map Token.unplaced = (y.map (token source')).map Token.unplaced := by
  cases h with
  | none => rfl
  | some h => simp only [Option.map_some, h.token]

theorem Moved.functionDeclaration {a b : List Concrete}
    (h : List.Forall₂ (Moved source source') a b) :
    (functionDeclaration source a).unplaced = (functionDeclaration source' b).unplaced := by
  have hfield := nameField? h
  have hstart : SameSignature source source' { name := Concrete.nameField? a }
      { name := Concrete.nameField? b } := ⟨hfield, .none, rfl, rfl⟩
  have hsame := sameSignature_readSignature (Concrete.nameField? b).isSome hstart h
  simp only [Concrete.functionDeclaration, FunctionDeclaration.unplaced, isSome_of_rel hfield,
    map_token_of_rel hsame.name, map_token_of_rel hsame.returnType]

theorem Moved.nodeKind {c d : Concrete} (h : Moved source source' c d) :
    (c.nodeKind source).unplaced = (d.nodeKind source').unplaced := by
  unfold Concrete.nodeKind
  rw [kind_of_unplaced h.unplaced, importPath h.children, h.isIdentifier]
  split
  · rfl
  split
  · rfl
  split
  · exact congrArg NodeKind.function (functionDeclaration h.children)
  split
  · exact congrArg NodeKind.identifier h.token
  · rfl

/-- What becomes of a node and of all that survives below it, without the places. -/
def kinds (source : List Char) (c : Concrete) : List NodeKind :=
  c.visibleNodes.map fun p => (p.2.nodeKind source).unplaced

theorem kinds_eq (source : List Char) (c : Concrete) :
    c.kinds source = (c.nodeKind source).unplaced :: c.kept.flatMap (kinds source) := by
  have hbelow := congrArg (List.map fun d => (nodeKind source d).unplaced)
    (map_snd_visibleFrom 0 c.children)
  simp only [List.map_map, List.map_flatMap] at hbelow
  rw [kinds, visibleNodes_eq, List.map_cons]
  exact congrArg (_ :: ·) hbelow

/-- Lists whose members correspond give the same where corresponding members do. -/
theorem flatMap_eq_of_forall₂ {α β γ : Type} {R : α → β → Prop} {f : α → List γ} {g : β → List γ}
    {a : List α} {b : List β} (h : List.Forall₂ R a b)
    (hfg : ∀ x ∈ a, ∀ y ∈ b, R x y → f x = g y) : a.flatMap f = b.flatMap g := by
  induction h with
  | nil => rfl
  | @cons x y a b hxy _ ih =>
      rw [List.flatMap_cons, List.flatMap_cons, hfg x List.mem_cons_self y List.mem_cons_self hxy,
        ih fun z hz w hw => hfg z (List.mem_cons_of_mem _ hz) w (List.mem_cons_of_mem _ hw)]

theorem Moved.kept {a b : List Concrete} (h : List.Forall₂ (Moved source source') a b) :
    List.Forall₂ (Moved source source') (a.filter isKept) (b.filter isKept) :=
  List.rel_filter (fun _ _ h => by simp [isKept_of_unplaced h.unplaced]) h

/-- A node that was moved leaves the same nodes. -/
theorem Moved.kinds {c d : Concrete} (h : Moved source source' c d) :
    c.kinds source = d.kinds source' := by
  induction c using induct generalizing d with
  | node head children ih =>
      rw [kinds_eq, kinds_eq, h.nodeKind]
      refine congrArg _ (flatMap_eq_of_forall₂ (Moved.kept h.children) fun x hx y _ hxy => ?_)
      exact ih x (List.mem_of_mem_filter hx) hxy

theorem Moved.flatMap_kinds {a b : List Concrete} (h : List.Forall₂ (Moved source source') a b) :
    a.flatMap (Concrete.kinds source) = b.flatMap (Concrete.kinds source') :=
  flatMap_eq_of_forall₂ h fun _ _ _ _ h => h.kinds

end Concrete
end Kotlin
end NamingLint
