import NamingLint.Proofs.DeclarationParts
import NamingLint.Proofs.ImportPaths
import NamingLint.Proofs.MovedNodes

/-!
What the layout of imports has to do with the naming rule. Of a parser two things are asked and not
proved: that a sound import directive has the shape of the grammar, and that comments and blanks
between the tokens of one change nothing but places and what stands between those tokens. Then the
path of an import is read off its identifiers, and layout has no say in it, nor in what the rule
says of the file, unless a comment stands inside a name.
-/

namespace NamingLint.Kotlin

open Syntax FunctionName

/-- The file holds imports, and so does what could not be read of it. -/
def Head.holdsImports (head : Head) : Bool :=
  head.kind == "source_file" || head.isError

namespace Concrete

mutual

/-- The import directives of a tree, in the file itself and in its errors. -/
def directives : Concrete → List Concrete
  | node head children =>
      if isImportKind head.kind then [node head children]
      else if head.holdsImports then directivesAmong children
      else []

def directivesAmong : List Concrete → List Concrete
  | [] => []
  | c :: rest => (if c.isKept then directives c else []) ++ directivesAmong rest

end

variable (source : List Char)

mutual

/-- No error is in the node, and no token of it is missing. -/
def isSound : Concrete → Bool
  | node head children =>
      !head.isError && (!children.isEmpty || !(Text.slice source head.start head.stop).isEmpty) &&
        areSound children

def areSound : List Concrete → Bool
  | [] => true
  | c :: rest => isSound c && areSound rest

end

mutual

/-- The texts of the tokens, without the comments between them. -/
def tokens : Concrete → List (List Char)
  | node head children =>
      if children.isEmpty then [Text.slice source head.start head.stop]
      else tokensAmong children

def tokensAmong : List Concrete → List (List Char)
  | [] => []
  | c :: rest => (if c.head.extra then [] else tokens c) ++ tokensAmong rest

end

/-- The node covers the text that comes after the given one. -/
structure Covers (before text : List Char) (c : Concrete) : Prop where
  start : c.head.start = Text.octets before
  stop : c.head.stop = Text.octets (before ++ text)

end Concrete

/-- The sources differ in one import directive only, and there in comments and blanks between its
tokens. -/
structure Relaid (parse : List Char → Concrete) (source source' : List Char) (c d : Concrete) :
    Prop where
  texts : ∃ before text text' after, source = before ++ text ++ after ∧
    source' = before ++ text' ++ after ∧ c.Covers before text ∧ d.Covers before text'
  directive : c ∈ (parse source).directives ∧ d ∈ (parse source').directives
  sound : c.isSound source = true ∧ d.isSound source' = true
  tokens : c.tokens source = d.tokens source'

section

variable (source source' : List Char)

/-- A part of an import at another place; the qualified name may be laid out otherwise. -/
inductive SamePart (c d : Concrete) : Prop where
  | moved (h : c.Moved source source' d)
  | name (kind : c.kind = "qualified_identifier") (head : c.head.unplaced = d.head.unplaced)
      (parts : List.Forall₂ (Concrete.Moved source source') (Concrete.proper c.children)
        (Concrete.proper d.children))

instance (c d : Concrete) : Decidable (SamePart source source' c d) :=
  decidable_of_iff
    (c.Moved source source' d ∨ c.kind = "qualified_identifier" ∧
      c.head.unplaced = d.head.unplaced ∧
      List.Forall₂ (Concrete.Moved source source') (Concrete.proper c.children)
        (Concrete.proper d.children))
    ⟨fun h => h.elim .moved fun ⟨kind, head, parts⟩ => .name kind head parts,
      fun | .moved h => .inl h | .name kind head parts => .inr ⟨kind, head, parts⟩⟩

/-- The same import directive, but for the comments in it. -/
structure SameImport (c d : Concrete) : Prop where
  head : c.head.unplaced = d.head.unplaced
  parts : List.Forall₂ (SamePart source source') (Concrete.proper c.children)
    (Concrete.proper d.children)

instance (c d : Concrete) : Decidable (SameImport source source' c d) :=
  decidable_of_iff
    (c.head.unplaced = d.head.unplaced ∧
      List.Forall₂ (SamePart source source') (Concrete.proper c.children)
        (Concrete.proper d.children))
    ⟨fun h => ⟨h.1, h.2⟩, fun h => ⟨h.head, h.parts⟩⟩

/-- Trees that are the same but for places and for one import directive, which stands in the file
or in an error of it. -/
inductive SameAround (c d : Concrete) : Concrete → Concrete → Prop where
  | here : SameAround c d c d
  | inside {head head' : Head} {before before' after after' : List Concrete} {t t' : Concrete}
      (unplaced : head.unplaced = head'.unplaced) (holds : head.holdsImports = true)
      (hbefore : List.Forall₂ (Concrete.Moved source source') before before')
      (h : SameAround c d t t')
      (hafter : List.Forall₂ (Concrete.Moved source source') after after') :
      SameAround c d (.node head (before ++ t :: after)) (.node head' (before' ++ t' :: after'))

end

/-- A sound import directive has the shape that the grammar gives it. -/
def ShapesImports (parse : List Char → Concrete) : Prop :=
  ∀ source, ∀ p ∈ (parse source).visibleNodes, isImportKind p.2.kind = true →
    p.2.isSound source = true → ∃ word q suffix, IsImport source p.2 word q suffix

/-- Comments and blanks between the tokens of an import directive leave the rest of the tree as it
is, and the tokens of the directive where they were in it. -/
def IgnoresLayout (parse : List Char → Concrete) : Prop :=
  ∀ source source' c d, Relaid parse source source' c d →
    SameImport source source' c d ∧
      SameAround source source' c d (parse source) (parse source')

namespace Concrete

theorem mem_directivesAmong (children : List Concrete) (c : Concrete) :
    c ∈ directivesAmong children ↔
      ∃ child ∈ children, child.isKept = true ∧ c ∈ child.directives := by
  induction children with
  | nil => simp [directivesAmong]
  | cons child rest ih => cases h : child.isKept <;> simp [directivesAmong, h, ih]

/-- An import directive is among the nodes that survive. -/
theorem mem_visible_of_directive {root c : Concrete} (h : c ∈ root.directives) :
    isImportKind c.kind = true ∧ c ∈ root.visibleNodes.map Prod.snd := by
  induction root using induct with
  | node head children ih =>
      rw [visibleNodes_eq, List.map_cons, map_snd_visibleFrom, List.mem_cons]
      unfold directives at h
      split at h
      · next himport =>
          obtain rfl := List.mem_singleton.mp h
          exact ⟨himport, .inl rfl⟩
      · split at h
        · obtain ⟨child, hchild, hkept, hc⟩ := (mem_directivesAmong children c).mp h
          obtain ⟨himport, hvisible⟩ := ih child hchild hc
          exact ⟨himport, .inr (List.mem_flatMap.mpr
            ⟨child, List.mem_filter.mpr ⟨hchild, hkept⟩, hvisible⟩)⟩
        · cases h

variable {source source' : List Char}

theorem areSound_iff (children : List Concrete) :
    areSound source children = true ↔ ∀ c ∈ children, c.isSound source = true := by
  induction children with
  | nil => simp [areSound]
  | cons c rest ih => simp [areSound, ih]

theorem isError_of_isSound {c : Concrete} (h : c.isSound source = true) :
    c.head.isError = false := by
  obtain ⟨head, children⟩ := c
  simp only [isSound, Bool.and_eq_true, Bool.not_eq_true'] at h
  exact h.1.1

theorem isSound_of_mem {c child : Concrete} (h : c.isSound source = true)
    (hchild : child ∈ c.children) : child.isSound source = true := by
  obtain ⟨head, children⟩ := c
  simp only [isSound, Bool.and_eq_true] at h
  exact (areSound_iff children).mp h.2 child hchild

/-- Where there are no errors, what the grammar puts there survives if it is named. -/
theorem kept_of_isSound {c : Concrete} (h : c.isSound source = true) :
    c.kept = (proper c.children).filter fun d => d.head.named := by
  rw [kept, proper, List.filter_filter]
  refine List.filter_congr fun d hd => ?_
  simp [isKept, isError_of_isSound (isSound_of_mem h hd)]

end Concrete

open Concrete

variable {source source' : List Char}

namespace SamePart

variable {c d : Concrete}

theorem unplaced (h : SamePart source source' c d) : c.head.unplaced = d.head.unplaced := by
  cases h with
  | moved h => exact h.unplaced
  | name _ head _ => exact head

/-- The tokens of the part, as far as the grammar puts them there. -/
theorem parts (h : SamePart source source' c d) :
    List.Forall₂ (Moved source source') (proper c.children) (proper d.children) := by
  cases h with
  | moved h => exact Moved.proper h.children
  | name _ _ parts => exact parts

theorem kinds (h : SamePart source source' c d) (hc : c.isSound source = true)
    (hd : d.isSound source' = true) : c.kinds source = d.kinds source' := by
  cases h with
  | moved h => exact h.kinds
  | name hkind head parts =>
      have hname (source : List Char) {q : Concrete} (h : q.kind = "qualified_identifier") :
          q.nodeKind source = .other "qualified_identifier" := by
        simp [nodeKind, h, isImportKind, isIdentifier, isIdentifierKind]
      rw [kinds_eq, kinds_eq, hname source hkind, hname source' ((kind_of_unplaced head).symm.trans
        hkind), kept_of_isSound hc, kept_of_isSound hd]
      exact congrArg _ (Moved.flatMap_kinds
        (List.rel_filter (fun _ _ h => by simp [named_of_unplaced h.unplaced]) parts))

end SamePart

theorem nodeKind_import {source : List Char} {c : Concrete} (h : isImportKind c.kind = true) :
    c.nodeKind source = .importDirective (Concrete.importPath source c.children) := by
  have hfile : (c.kind == "source_file") = false := by
    simp only [isImportKind, Bool.or_eq_true, beq_iff_eq] at h
    rcases h with h | h <;> rw [h] <;> decide
  simp [Concrete.nodeKind, hfile, h]

theorem identifierTexts_moved {a b : List Concrete}
    (h : List.Forall₂ (Moved source source') a b) :
    identifierTexts source a = identifierTexts source' b := by
  induction h with
  | nil => rfl
  | @cons c d a b h _ ih =>
      unfold identifierTexts at ih ⊢
      rw [List.filter_cons, List.filter_cons, h.isIdentifier]
      split
      · rw [List.map_cons, List.map_cons, h.text, ih]
      · exact ih

namespace SameImport

variable {c d : Concrete}

theorem importNames (h : SameImport source source' c d) (hc : c.Uncommented)
    (hd : d.Uncommented) : c.importNames source = d.importNames source' := by
  have hproper {c : Concrete} (h : c.Uncommented) : proper c.nameParts = c.nameParts :=
    List.filter_eq_self.mpr fun d hd => by simp [h d hd]
  rw [Concrete.importNames, Concrete.importNames, ← hproper hc, ← hproper hd]
  have hfound := find?_of_forall₂ (p := fun d => d.kind == "qualified_identifier")
    (q := fun d => d.kind == "qualified_identifier")
    (fun _ _ h => by rw [kind_of_unplaced h.unplaced]) h.parts
  unfold nameParts
  generalize (proper c.children).find? _ = x at hfound ⊢
  generalize (proper d.children).find? _ = y at hfound ⊢
  cases hfound with
  | none => rfl
  | some h => exact identifierTexts_moved h.parts

/-- The path is read off the identifiers, so it is the same. -/
theorem importPath (h : SameImport source source' c d) (hc : c.Uncommented) (hd : d.Uncommented)
    (hresolved : Resolved source c) (hresolved' : Resolved source' d) :
    importPath source c.children = importPath source' d.children := by
  rw [hresolved.path hc, hresolved'.path hd, h.importNames hc hd]

theorem kinds (h : SameImport source source' c d) (himport : isImportKind c.kind = true)
    (hc : c.isSound source = true) (hd : d.isSound source' = true)
    (hpath : Concrete.importPath source c.children = Concrete.importPath source' d.children) :
    c.kinds source = d.kinds source' := by
  have himport' : isImportKind d.kind = true := kind_of_unplaced h.head ▸ himport
  rw [kinds_eq, kinds_eq, nodeKind_import himport, nodeKind_import himport', hpath,
    kept_of_isSound hc, kept_of_isSound hd]
  refine congrArg _ (flatMap_eq_of_forall₂ (R := SamePart source source') ?_ ?_)
  · exact List.rel_filter (fun _ _ h => by simp [named_of_unplaced h.unplaced]) h.parts
  · intro x hx y hy hxy
    have hmem {c x : Concrete} (hx : x ∈ (proper c.children).filter fun d => d.head.named) :
        x ∈ c.children := List.mem_of_mem_filter (List.mem_of_mem_filter hx)
    exact hxy.kinds (isSound_of_mem hc (hmem hx)) (isSound_of_mem hd (hmem hy))

end SameImport

/-- What holds imports is lowered to the same, whatever it holds. -/
theorem nodeKind_holdsImports {head : Head} (h : head.holdsImports = true)
    (children : List Concrete) :
    (node head children).nodeKind source =
      if head.kind = "source_file" then .file else .other head.kind := by
  simp only [Head.holdsImports, Head.isError, Bool.or_eq_true, beq_iff_eq] at h
  rcases h with hkind | hkind <;>
    simp [nodeKind, Concrete.kind, Concrete.head, hkind, isImportKind, isIdentifier,
      isIdentifierKind]

/-- What stands around an import directive leaves the same nodes if the directive does. -/
theorem SameAround.kinds {c d t t' : Concrete} (h : SameAround source source' c d t t')
    (hhead : c.head.unplaced = d.head.unplaced) (hkinds : c.kinds source = d.kinds source') :
    t.head.unplaced = t'.head.unplaced ∧ t.kinds source = t'.kinds source' := by
  induction h with
  | here => exact ⟨hhead, hkinds⟩
  | @inside head head' before before' after after' t t' unplaced holds hbefore _ hafter ih =>
      obtain ⟨ihhead, ihkinds⟩ := ih
      have hkind : head.kind = head'.kind := (congrArg Head.kind unplaced :)
      have holds' : head'.holdsImports = true := by
        simpa only [Head.holdsImports, Head.isError, hkind] using holds
      have hthere : ([t].filter isKept).flatMap (Concrete.kinds source) =
          ([t'].filter isKept).flatMap (Concrete.kinds source') := by
        cases hkept : t.isKept with
        | true => simp [hkept, isKept_of_unplaced ihhead ▸ hkept, ihkinds]
        | false => simp [hkept, isKept_of_unplaced ihhead ▸ hkept]
      refine ⟨unplaced, ?_⟩
      rw [kinds_eq, kinds_eq, nodeKind_holdsImports holds, nodeKind_holdsImports holds', hkind]
      refine congrArg _ ?_
      change ((before ++ ([t] ++ after)).filter isKept).flatMap _ =
        ((before' ++ ([t'] ++ after')).filter isKept).flatMap _
      simp only [List.filter_append, List.flatMap_append]
      rw [Moved.flatMap_kinds (Moved.kept hbefore), hthere,
        Moved.flatMap_kinds (Moved.kept hafter)]

/-- The files of two sources agree up to places. -/
structure Agree (tree tree' : Node) : Prop where
  nodes : tree.nodes.map Node.unplaced = tree'.nodes.map Node.unplaced
  states : ∀ j, stateAfter (tree.nodes.take j) = stateAfter (tree'.nodes.take j)
  reports : ∀ j, (rule.emittedAt tree.nodes j).map Diagnostic.unplaced =
    (rule.emittedAt tree'.nodes j).map Diagnostic.unplaced

theorem agree_of_nodes {tree tree' : Node}
    (h : tree.nodes.map Node.unplaced = tree'.nodes.map Node.unplaced) : Agree tree tree' where
  nodes := h
  states := fun j => by
    rw [← stateAfter_unplaced, ← stateAfter_unplaced (tree'.nodes.take j), List.map_take,
      List.map_take, h]
  reports := fun j => by
    rw [← emittedAt_unplaced, ← emittedAt_unplaced tree'.nodes, h]

theorem map_unplaced_assemble (source : List Char) (root : Concrete) :
    (assemble source root).nodes.map Node.unplaced =
      (root.kinds source).map fun kind => .mk kind 0 [] := by
  have hlabels := congrArg (List.map fun l => Node.mk l.1.unplaced 0 []) (label_nodes source root)
  rw [List.map_map, List.map_map] at hlabels
  rw [Concrete.kinds, List.map_map]
  exact hlabels

/-- Of every parser that gives imports their shape and ignores their layout: a sound import
directive resolves to its identifiers as written, joined by single dots, exactly when no comment
stands inside its name and no name in backticks has white space in it; with such white space left
out, when no comment does. Two sources that differ in comments and blanks between the tokens of a
sound import directive, with none of the comments inside its name, give it the same path, and the
rule finds the same in both, node by node. -/
theorem imports_resolve (parse : List Char → Concrete) (shapes : ShapesImports parse)
    (layout : IgnoresLayout parse) :
    (∀ source, ∀ p ∈ (parse source).visibleNodes, isImportKind p.2.kind = true →
      p.2.isSound source = true → Resolved source p.2) ∧
    ∀ source source' c d, Relaid parse source source' c d → c.Uncommented → d.Uncommented →
      importPath source c.children = importPath source' d.children ∧
        Agree (assemble source (parse source)) (assemble source' (parse source')) := by
  have hresolved (source) (p) (hp : p ∈ (parse source).visibleNodes)
      (himport : isImportKind p.2.kind = true) (hsound : p.2.isSound source = true) :
      Resolved source p.2 := by
    obtain ⟨word, q, suffix, h⟩ := shapes source p hp himport hsound
    exact h.resolved
  refine ⟨hresolved, fun source source' c d hrelaid hbare hbare' => ?_⟩
  have hdirective {source : List Char} {c : Concrete} (hc : c ∈ (parse source).directives)
      (hsound : c.isSound source = true) : Resolved source c := by
    obtain ⟨himport, hvisible⟩ := mem_visible_of_directive hc
    obtain ⟨p, hp, rfl⟩ := List.mem_map.mp hvisible
    exact hresolved source p hp himport hsound
  obtain ⟨hc, hd⟩ := hrelaid.directive
  obtain ⟨hsound, hsound'⟩ := hrelaid.sound
  obtain ⟨hsame, haround⟩ := layout source source' c d hrelaid
  have hpath := hsame.importPath hbare hbare' (hdirective hc hsound) (hdirective hd hsound')
  have hkinds := hsame.kinds (mem_visible_of_directive hc).1 hsound hsound' hpath
  refine ⟨hpath, agree_of_nodes ?_⟩
  rw [map_unplaced_assemble, map_unplaced_assemble, (haround.kinds hsame.head hkinds).2]

/-- Below a node that is not hidden itself, the imports that survive are among all imports. -/
theorem Concrete.ImportsAre.of_visible {P : Concrete → Prop} {root c : Concrete}
    (h : root.ImportsAre P) (hnamed : root.head.named = true)
    (hc : c ∈ root.visibleNodes.map Prod.snd) (himport : isImportKind c.kind = true) : P c := by
  induction root using induct generalizing c with
  | node head children ih =>
      obtain ⟨here, below⟩ := h
      rw [visibleNodes_eq, List.map_cons, map_snd_visibleFrom, List.mem_cons] at hc
      rcases hc with rfl | hc
      · exact here hnamed himport
      · obtain ⟨child, hkept, hc⟩ := List.mem_flatMap.mp hc
        obtain ⟨hchild, hkept⟩ := List.mem_filter.mp hkept
        have hchildNamed : child.head.named = true := (Bool.and_eq_true_iff.mp hkept).1
        exact ih child hchild (below child hchild) hchildNamed hc himport

theorem named_parseConcrete (source : List Char) : (parseConcrete source).head.named = true := by
  unfold parseConcrete
  simp only
  split <;> rfl

/-- The parser of this library gives imports their shape, sound or not. -/
theorem shapes_parseConcrete : ShapesImports parseConcrete :=
  fun source _ hp himport _ => (imports_parseConcrete source).of_visible
    (named_parseConcrete source) (List.mem_map_of_mem hp) himport

instance (c : Concrete) : Decidable c.Uncommented :=
  inferInstanceAs (Decidable (∀ d ∈ c.nameParts, d.head.extra = false))

def tightImport : List Char := "import org.junit.Test\nfun a_b()".toList

def wideImport : List Char := "import /* a */ org .\n junit\n. Test\nfun a_b()".toList

def tightDirective : Concrete :=
  namedNode "import" 0 21
    [leafAt "import" 0 6 false,
      namedNode "qualified_identifier" 7 21
        [leafAt "identifier" 7 10, leafAt "." 10 11 false, leafAt "identifier" 11 16,
          leafAt "." 16 17 false, leafAt "identifier" 17 21]]

def wideDirective : Concrete :=
  namedNode "import" 0 34
    [leafAt "import" 0 6 false, leafAt "block_comment" 7 14 true true,
      namedNode "qualified_identifier" 15 34
        [leafAt "identifier" 15 18, leafAt "." 19 20 false, leafAt "identifier" 22 27,
          leafAt "." 28 29 false, leafAt "identifier" 30 34]]

/-- The function `fun a_b()` at a place. -/
def functionAt (start : Nat) : Concrete :=
  namedNode "function_declaration" start (start + 9)
    [leafAt "fun" start (start + 3) false,
      .node { kind := "identifier", named := true, role := .name, start := start + 4,
              stop := start + 7 } [],
      namedNode "function_value_parameters" (start + 7) (start + 9)
        [leafAt "(" (start + 7) (start + 8) false, leafAt ")" (start + 8) (start + 9) false]]

def fileOf (directive : Concrete) : Concrete :=
  namedNode "source_file" 0 (directive.head.stop + 10)
    [directive, functionAt (directive.head.stop + 1)]

/-- The trees of the two sources; all other sources are taken for empty. -/
def parseEither (source : List Char) : Concrete :=
  if source = tightImport then fileOf tightDirective
  else if source = wideImport then fileOf wideDirective
  else namedNode "source_file" 0 0 []

theorem parseConcrete_tightImport : parseConcrete tightImport = fileOf tightDirective := by
  decide +kernel

theorem parseConcrete_wideImport : parseConcrete wideImport = fileOf wideDirective := by
  decide +kernel

theorem shapes_parseEither : ShapesImports parseEither := by
  intro source p hp himport hsound
  unfold parseEither at hp
  split at hp
  · next h =>
      subst h
      exact shapes_parseConcrete tightImport p (parseConcrete_tightImport ▸ hp) himport hsound
  split at hp
  · next h =>
      subst h
      exact shapes_parseConcrete wideImport p (parseConcrete_wideImport ▸ hp) himport hsound
  · obtain rfl := List.mem_singleton.mp hp
    exact absurd himport (by decide)

theorem directives_parseEither {source : List Char} {c : Concrete}
    (h : c ∈ (parseEither source).directives) :
    (source = tightImport ∧ c = tightDirective) ∨ (source = wideImport ∧ c = wideDirective) := by
  unfold parseEither at h
  split at h
  · next hsource => exact .inl ⟨hsource, List.mem_singleton.mp h⟩
  split at h
  · next hsource => exact .inr ⟨hsource, List.mem_singleton.mp h⟩
  · cases h

theorem parseEither_tightImport : parseEither tightImport = fileOf tightDirective :=
  if_pos rfl

theorem parseEither_wideImport : parseEither wideImport = fileOf wideDirective := by
  rw [parseEither, if_neg (by decide), if_pos rfl]

theorem ignoresLayout_parseEither : IgnoresLayout parseEither := by
  intro source source' c d h
  have hsame {c d : Concrete} (himport : SameImport source source' c d)
      (hbehind : Moved source source' (functionAt (c.head.stop + 1))
        (functionAt (d.head.stop + 1))) :
      SameImport source source' c d ∧ SameAround source source' c d (fileOf c) (fileOf d) := by
    refine ⟨himport, ?_⟩
    change SameAround source source' c d (.node _ ([] ++ c :: [functionAt _]))
      (.node _ ([] ++ d :: [functionAt _]))
    exact .inside rfl rfl .nil .here (.cons hbehind .nil)
  obtain ⟨⟨rfl, rfl⟩ | ⟨rfl, rfl⟩, ⟨rfl, rfl⟩ | ⟨rfl, rfl⟩⟩ :=
    And.intro (directives_parseEither h.directive.1) (directives_parseEither h.directive.2)
  · rw [parseEither_tightImport]
    exact hsame (by decide) (by decide)
  · rw [parseEither_tightImport, parseEither_wideImport]
    exact hsame (by decide) (by decide)
  · rw [parseEither_tightImport, parseEither_wideImport]
    exact hsame (by decide) (by decide)
  · rw [parseEither_wideImport]
    exact hsame (by decide) (by decide)

theorem relaid_tightImport :
    Relaid parseEither tightImport wideImport tightDirective wideDirective where
  texts := ⟨[], "import org.junit.Test".toList, "import /* a */ org .\n junit\n. Test".toList,
    "\nfun a_b()".toList, by decide, by decide, ⟨by decide, by decide⟩, ⟨by decide, by decide⟩⟩
  directive := by
    rw [parseEither_tightImport, parseEither_wideImport]
    exact ⟨List.mem_singleton.mpr rfl, List.mem_singleton.mpr rfl⟩
  sound := by decide
  tokens := by decide

/-- The comment in front of the name, the blanks and the ends of lines are of no account. -/
theorem imports_relaid :
    ShapesImports parseEither ∧ IgnoresLayout parseEither ∧
      Relaid parseEither tightImport wideImport tightDirective wideDirective ∧
      tightDirective.Uncommented ∧ wideDirective.Uncommented ∧
      importPath wideImport wideDirective.children = some "org.junit.Test" ∧
      importPath tightImport tightDirective.children =
        importPath wideImport wideDirective.children ∧
      Agree (parse tightImport) (parse wideImport) ∧
      (rule.check (parse wideImport)).diagnostics = [] := by
  obtain ⟨hresolved, hrelaid⟩ :=
    imports_resolve parseEither shapes_parseEither ignoresLayout_parseEither
  have hmem : ([0], wideDirective) ∈ (parseEither wideImport).visibleNodes := by
    rw [parseEither_wideImport]
    decide
  have hsolid : ∀ name ∈ wideDirective.importNames wideImport, Text.removeSpace name = name := by
    decide
  have hpath : importPath wideImport wideDirective.children = some "org.junit.Test" :=
    (hresolved wideImport _ hmem (by decide) (by decide)).exact.mpr
      ⟨by decide, fun name hname => removeSpace_eq_self.mp (hsolid name hname)⟩
  obtain ⟨hsame, hagree⟩ := hrelaid _ _ _ _ relaid_tightImport (by decide) (by decide)
  have htight : parse tightImport = assemble tightImport (parseEither tightImport) := by
    rw [parse, parseConcrete_tightImport, parseEither_tightImport]
  have hwide : parse wideImport = assemble wideImport (parseEither wideImport) := by
    rw [parse, parseConcrete_wideImport, parseEither_wideImport]
  refine ⟨shapes_parseEither, ignoresLayout_parseEither, relaid_tightImport, by decide, by decide,
    hpath, hsame, ?_, by decide +kernel⟩
  rw [htight, hwide]
  exact hagree

def commentedImport : List Char := "import org./* x */junit.Test\nfun a_b()".toList

/-- The comment stays in the path, and the file is no test file any more. -/
theorem comment_changesPath :
    (parse tightImport).nodes[1]?.map Node.kind =
        some (.importDirective (some "org.junit.Test")) ∧
      (parse commentedImport).nodes[1]?.map Node.kind =
        some (.importDirective (some "org./*x*/junit.Test")) ∧
      (rule.check (parse tightImport)).diagnostics = [] ∧
      (rule.check (parse commentedImport)).diagnostics.length = 1 := by
  refine ⟨?_, ?_, ?_, ?_⟩ <;> decide +kernel

end NamingLint.Kotlin
