import NamingLint.Proofs.Assembly

/-!
Which nodes of a concrete tree survive lowering, by address. An address is the list of child
positions that leads from the root to a node; the order of addresses is document order. Nothing is
said of the octet ranges of the nodes.
-/

namespace NamingLint.Kotlin

open Syntax

namespace Concrete

def get? : List Nat → Concrete → Option Concrete
  | [], c => some c
  | i :: rest, c => c.children[i]?.bind (get? rest)

/-- The node `c` at an address survives: it and all that lies between it and the root are named,
and none of them is extra unless it could not be read. -/
def Visible (root : Concrete) (address : List Nat) (c : Concrete) : Prop :=
  get? address root = some c ∧
    ∀ above d, above ≠ [] → above <+: address → get? above root = some d →
      d.head.named = true ∧ (d.head.extra = false ∨ d.head.isError = true)

theorem isKept_iff (c : Concrete) :
    c.isKept = true ↔ c.head.named = true ∧ (c.head.extra = false ∨ c.head.isError = true) := by
  simp [isKept]

theorem get?_append (a b : List Nat) (root : Concrete) :
    get? (a ++ b) root = (get? a root).bind (get? b) := by
  induction a generalizing root with
  | nil => rfl
  | cons i a ih =>
      simp only [List.cons_append, get?]
      cases root.children[i]? with
      | none => rfl
      | some child => exact ih child

theorem visible_nil (root c : Concrete) : Visible root [] c ↔ root = c := by
  constructor
  · intro h
    obtain ⟨hget, -⟩ := h
    exact Option.some.inj hget
  · rintro rfl
    exact ⟨rfl, fun above d hne hle _ => absurd (List.prefix_nil.mp hle) hne⟩

theorem visible_cons (root : Concrete) (i : Nat) (rest : List Nat) (c : Concrete) :
    Visible root (i :: rest) c ↔
      ∃ child, root.children[i]? = some child ∧ child.isKept = true ∧ Visible child rest c := by
  constructor
  · intro h
    obtain ⟨hget, hkept⟩ := h
    obtain ⟨child, hchild, hget⟩ := Option.bind_eq_some_iff.mp hget
    have hbelow (above : List Nat) : get? (i :: above) root = get? above child := by
      simp [get?, hchild]
    refine ⟨child, hchild, (isKept_iff child).mpr ?_, hget, fun above d hne hle hd => ?_⟩
    · exact hkept [i] child (List.cons_ne_nil i []) ⟨rest, rfl⟩ (hbelow [])
    · exact hkept (i :: above) d (List.cons_ne_nil i above) (List.prefix_cons_inj i |>.mpr hle)
        ((hbelow above).trans hd)
  · intro h
    obtain ⟨child, hchild, hkept, hget, habove⟩ := h
    have hbelow (above : List Nat) : get? (i :: above) root = get? above child := by
      simp [get?, hchild]
    refine ⟨(hbelow rest).trans hget, fun above d hne hle hd => ?_⟩
    cases above with
    | nil => exact absurd rfl hne
    | cons j above =>
        obtain ⟨rfl, hrest⟩ := List.cons_prefix_cons.mp hle
        rw [hbelow] at hd
        cases above with
        | nil =>
            obtain rfl := Option.some.inj hd
            exact (isKept_iff _).mp hkept
        | cons k above => exact habove _ d (List.cons_ne_nil k above) hrest hd

/-- A node that belongs to its parent survives with it. -/
theorem Visible.child {root parent c : Concrete} {address : List Nat} {i : Nat}
    (h : Visible root address parent) (hc : parent.children[i]? = some c)
    (hkept : c.head.named = true ∧ (c.head.extra = false ∨ c.head.isError = true)) :
    Visible root (address ++ [i]) c := by
  have hget : get? (address ++ [i]) root = some c := by
    simp [get?_append, h.1, get?, hc]
  refine ⟨hget, fun above d hne hle hd => ?_⟩
  rcases List.prefix_concat_iff.mp hle with rfl | hle
  · obtain rfl : d = c := Option.some.inj (hd.symm.trans hget)
    exact hkept
  · exact h.2 above d hne hle hd

mutual

/-- The surviving nodes in document order, each with its address. -/
def visibleNodes : Concrete → List (List Nat × Concrete)
  | node head children => ([], node head children) :: visibleFrom 0 children

def visibleFrom : Nat → List Concrete → List (List Nat × Concrete)
  | _, [] => []
  | i, c :: rest =>
      (if c.isKept then (visibleNodes c).map fun p => (i :: p.1, p.2) else []) ++
        visibleFrom (i + 1) rest

end

theorem visibleNodes_eq (c : Concrete) :
    c.visibleNodes = ([], c) :: visibleFrom 0 c.children := by
  cases c
  simp [visibleNodes, children]

theorem mem_visibleFrom (i : Nat) (children : List Concrete) (address : List Nat)
    (c : Concrete) :
    (address, c) ∈ visibleFrom i children ↔
      ∃ j child rest, children[j]? = some child ∧ child.isKept = true ∧
        (rest, c) ∈ child.visibleNodes ∧ address = (i + j) :: rest := by
  induction children generalizing i with
  | nil => simp [visibleFrom]
  | cons d rest ih =>
      have hhead : (address, c) ∈ (if d.isKept = true then
            d.visibleNodes.map fun p => (i :: p.1, p.2) else []) ↔
          d.isKept = true ∧ ∃ below, (below, c) ∈ d.visibleNodes ∧ address = i :: below := by
        cases h : d.isKept with
        | false => simp
        | true =>
            simp only [↓reduceIte, List.mem_map, Prod.mk.injEq, Prod.exists, true_and]
            constructor
            · intro h
              obtain ⟨below, e, hmem, rfl, rfl⟩ := h
              exact ⟨below, hmem, rfl⟩
            · intro h
              obtain ⟨below, hmem, rfl⟩ := h
              exact ⟨below, c, hmem, rfl, rfl⟩
      rw [visibleFrom, List.mem_append, hhead, ih]
      constructor
      · rintro (⟨hkept, below, hmem, rfl⟩ | ⟨j, child, below, hchild, hkept, hmem, rfl⟩)
        · exact ⟨0, d, below, rfl, hkept, hmem, rfl⟩
        · exact ⟨j + 1, child, below, hchild, hkept, hmem, by rw [Nat.add_right_comm]; rfl⟩
      · intro h
        obtain ⟨j, child, below, hchild, hkept, hmem, rfl⟩ := h
        cases j with
        | zero =>
            obtain rfl := Option.some.inj hchild
            exact .inl ⟨hkept, below, hmem, rfl⟩
        | succ j =>
            exact .inr ⟨j, child, below, hchild, hkept, hmem, by rw [Nat.add_right_comm]; rfl⟩

theorem mem_visibleNodes (root : Concrete) (address : List Nat) (c : Concrete) :
    (address, c) ∈ root.visibleNodes ↔ Visible root address c := by
  induction address generalizing root with
  | nil =>
      rw [visible_nil, visibleNodes_eq, List.mem_cons, mem_visibleFrom]
      constructor
      · rintro (h | ⟨j, child, rest, -, -, -, h⟩)
        · exact (Prod.mk.inj h).2.symm
        · cases h
      · rintro rfl
        exact .inl rfl
  | cons i rest ih =>
      rw [visible_cons, visibleNodes_eq, List.mem_cons, mem_visibleFrom]
      constructor
      · rintro (h | ⟨j, child, below, hchild, hkept, hmem, h⟩)
        · cases h
        · obtain ⟨rfl, rfl⟩ := List.cons.inj h
          exact ⟨child, by simpa using hchild, hkept, (ih child).mp hmem⟩
      · intro h
        obtain ⟨child, hchild, hkept, hvisible⟩ := h
        exact .inr ⟨i, child, rest, hchild, hkept, (ih child).mpr hvisible, by simp⟩

theorem le_of_mem_visibleFrom {i : Nat} {children : List Concrete} {p : List Nat × Concrete}
    (h : p ∈ visibleFrom i children) : ∃ j rest, i ≤ j ∧ p.1 = j :: rest := by
  obtain ⟨j, child, rest, -, -, -, heq⟩ := (mem_visibleFrom i children p.1 p.2).mp h
  exact ⟨i + j, rest, Nat.le_add_right i j, heq⟩

theorem pairwise_visibleFrom (i : Nat) (children : List Concrete)
    (ih : ∀ c ∈ children, c.visibleNodes.Pairwise fun p q => p.1 < q.1) :
    (visibleFrom i children).Pairwise fun p q => p.1 < q.1 := by
  induction children generalizing i with
  | nil => exact .nil
  | cons c rest ihrest =>
      obtain ⟨hc, hrest⟩ := List.forall_mem_cons.mp ih
      refine List.pairwise_append.mpr ⟨?_, ihrest (i + 1) hrest, ?_⟩
      · cases c.isKept with
        | false => exact .nil
        | true =>
            simp only [↓reduceIte, List.pairwise_map]
            exact hc.imp fun h => List.Lex.cons h
      · intro p hp q hq
        obtain ⟨j, below, hj, hq⟩ := le_of_mem_visibleFrom hq
        cases hk : c.isKept with
        | false => simp [hk] at hp
        | true =>
            obtain ⟨r, -, rfl⟩ : ∃ r ∈ c.visibleNodes, (i :: r.1, r.2) = p := by
              simpa [hk] using hp
            rw [hq]
            exact List.Lex.rel (by omega)

/-- Addresses grow along the listing, so it is in document order and repeats nothing. -/
theorem pairwise_visibleNodes (c : Concrete) :
    c.visibleNodes.Pairwise fun p q => p.1 < q.1 := by
  induction c using induct with
  | node head children ih =>
      rw [visibleNodes]
      refine List.pairwise_cons.mpr ⟨fun p hp => ?_, pairwise_visibleFrom 0 children ih⟩
      obtain ⟨j, rest, -, hp⟩ := le_of_mem_visibleFrom hp
      rw [hp]
      exact List.Lex.nil

theorem forestPreorder_lowerKept (source : List Char) (i : Nat) (children : List Concrete)
    (ih : ∀ c ∈ children,
      (lower source c).preorder = c.visibleNodes.map fun p => lower source p.2) :
    forestPreorder (lowerKept source children) =
      (visibleFrom i children).map fun p => lower source p.2 := by
  induction children generalizing i with
  | nil => rfl
  | cons c rest ihrest =>
      obtain ⟨hc, hrest⟩ := List.forall_mem_cons.mp ih
      cases h : c.isKept with
      | false => simp [lowerKept, visibleFrom, h, ihrest (i + 1) hrest]
      | true =>
          simp only [lowerKept, visibleFrom, h, ↓reduceIte, forestPreorder, List.map_append,
            List.map_map, Function.comp_def, hc, ihrest (i + 1) hrest]

/-- The nodes of a lowered tree are the surviving ones, each lowered with what is below it. -/
theorem preorder_lower (source : List Char) (c : Concrete) :
    (lower source c).preorder = c.visibleNodes.map fun p => lower source p.2 := by
  induction c using induct with
  | node head children ih =>
      simp only [lower, Node.preorder, visibleNodes, List.map_cons,
        forestPreorder_lowerKept source 0 children ih]

theorem map_preorder_lower (source : List Char) (c : Concrete) :
    (lower source c).preorder.map (fun n => (n.kind, n.offset)) =
      c.visibleNodes.map fun p => (p.2.nodeKind source, p.2.head.start.toUInt32) := by
  rw [preorder_lower, List.map_map]
  refine List.map_congr_left fun p _ => ?_
  simp only [Function.comp_apply, lower_eq]
  rfl

/-- Lowering makes no node that was not there. -/
theorem size_lower_le (source : List Char) (c : Concrete) : (lower source c).size ≤ c.size := by
  induction c using induct with
  | node head children ih =>
      have hforest (cs : List Concrete) (h : ∀ c ∈ cs, (lower source c).size ≤ c.size) :
          forestSize (lowerKept source cs) ≤ sizeAll cs := by
        induction cs with
        | nil => exact Nat.le_refl 0
        | cons c rest ihrest =>
            obtain ⟨hc, hrest⟩ := List.forall_mem_cons.mp h
            have := ihrest hrest
            simp only [lowerKept, sizeAll]
            split
            · simp only [forestSize]
              omega
            · omega
      have := hforest children ih
      simp only [lower, Node.size, size]
      omega

end Concrete

open Concrete

/-- Every stack that assembling reaches has a frame to work on. -/
theorem reachable_ne_nil {source : List Char} {first stack : List Frame} (hfirst : first ≠ [])
    (h : Relation.ReflTransGen (fun a b => advance source a = .running b) first stack) :
    stack ≠ [] := by
  induction h with
  | refl => exact hfirst
  | @tail before after _ hstep _ =>
      rcases advance_cases source before with ⟨-, hnow⟩ | ⟨frame, -, -, hnow⟩ |
        ⟨next, hnext, hnow⟩
      · cases hnow.symm.trans hstep
      · cases hnow.symm.trans hstep
      · obtain rfl : next = after := Progress.running.inj (hnow.symm.trans hstep)
        rcases hnext with ⟨_, _, _, _, -, -, rfl⟩ | ⟨_, _, _, -, -, rfl⟩
        · exact List.cons_ne_nil _ _
        · exact List.cons_ne_nil _ _

theorem assembleWithin_ofConcrete (source : List Char) (root : Concrete) (n : Nat)
    (h : 2 * root.size ≤ n) :
    assembleWithin source n [.ofConcrete source root] = some (lower source root) := by
  refine assembleWithin_of_builds (builds_ofConcrete source root) ?_
  have := size_lower_le source root
  omega

theorem assemble_eq_lower (source : List Char) (root : Concrete) :
    assemble source root = lower source root := by
  rw [assemble, assembleWithin_ofConcrete source root _ (Nat.le_refl _)]
  rfl

/-- Assembling comes to an end without running out of frames, it builds the lowering of the root,
and the nodes of that lowering are the surviving ones, each once and in document order. -/
theorem assemble_lists_visible (source : List Char) (root : Concrete) :
    (∀ stack, Relation.ReflTransGen (fun a b => advance source a = .running b)
        [.ofConcrete source root] stack → advance source stack ≠ .stuck) ∧
    (∀ n, 2 * root.size ≤ n →
      assembleWithin source n [.ofConcrete source root] = some (lower source root)) ∧
    assemble source root = lower source root ∧
    (∀ c, lower source c =
      .mk (c.nodeKind source) c.head.start.toUInt32
        ((c.children.filter fun d => d.head.named && (!d.head.extra || d.head.isError)).map
          (lower source))) ∧
    ∃ listing : List (List Nat × Concrete),
      listing.Pairwise (fun p q => p.1 < q.1) ∧
      (∀ address c, (address, c) ∈ listing ↔ Visible root address c) ∧
      (assemble source root).nodes.map (fun n => (n.kind, n.offset)) =
        listing.map (fun p => (p.2.nodeKind source, p.2.head.start.toUInt32)) ∧
      (∀ address c, (address, c) ∈ listing → address ≠ [] →
        c.head.named = true ∧ (c.head.extra = false ∨ c.head.isError = true)) ∧
      (∀ address parent i c, (address, parent) ∈ listing → parent.children[i]? = some c →
        c.head.named = true → c.head.extra = false ∨ c.head.isError = true →
        (address ++ [i], c) ∈ listing) := by
  refine ⟨fun stack hstack hstuck => ?_, assembleWithin_ofConcrete source root,
    assemble_eq_lower source root, lower_eq source, root.visibleNodes, pairwise_visibleNodes root,
    mem_visibleNodes root, ?_, fun address c hmem hne => ?_,
    fun address parent i c hmem hc hnamed hextra => ?_⟩
  · rcases advance_cases source stack with ⟨rfl, -⟩ | ⟨frame, -, -, hstep⟩ | ⟨next, -, hstep⟩
    · exact reachable_ne_nil (List.cons_ne_nil _ _) hstack rfl
    · cases hstep.symm.trans hstuck
    · cases hstep.symm.trans hstuck
  · rw [assemble_eq_lower, nodes_eq_preorder, map_preorder_lower]
  · have hvisible := (mem_visibleNodes root address c).mp hmem
    exact hvisible.2 address c hne (List.prefix_refl address) hvisible.1
  · exact (mem_visibleNodes root _ c).mpr
      (((mem_visibleNodes root address parent).mp hmem).child hc ⟨hnamed, hextra⟩)

end NamingLint.Kotlin
