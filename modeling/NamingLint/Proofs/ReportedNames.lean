import NamingLint.Proofs.DeclarationParts
import NamingLint.Proofs.DisabledRules
import NamingLint.Proofs.LineColumns
import NamingLint.Proofs.TextualOrder
import NamingLint.Proofs.TokensRead

/-!
Where the names that are reported stand in a source. If every node of a concrete tree begins and
ends between characters of the source, a token holds what its node covers, and the position of a
violation is that of the name of its function. That nodes do so is asked of the tree and not proved
of any parser. A name with a line feed in it goes beyond the line at which the violation points, and
nothing is said of it.
-/

namespace NamingLint

open Syntax Text

def Syntax.NodeKind.tokens : NodeKind → List Token
  | .function f => f.name.toList ++ f.returnType.toList
  | .identifier token => [token]
  | .file | .importDirective _ | .other _ => []

namespace Text

def encoded (text : List Char) : List UInt8 :=
  text.flatMap String.utf8EncodeChar

theorem length_encoded (text : List Char) : (encoded text).length = octets text := by
  induction text with
  | nil => rfl
  | cons c rest ih =>
      rw [encoded, List.flatMap_cons, List.length_append, String.length_utf8EncodeChar,
        octets_cons, ← ih, encoded]

theorem encoded_append (a b : List Char) : encoded (a ++ b) = encoded a ++ encoded b :=
  List.flatMap_append

/-- A character of the text begins at the octet, or the text ends there. -/
def IsBoundary (source : List Char) (n : Nat) : Prop :=
  ∃ before, before <+: source ∧ octets before = n

instance (source : List Char) (n : Nat) : Decidable (IsBoundary source n) :=
  decidable_of_iff (∃ before ∈ source.inits, octets before = n) (by
    simp only [IsBoundary, List.mem_inits])

/-- Between two boundaries stands the slice from one to the other. -/
theorem exists_slice {source : List Char} {start stop : Nat} (hstart : IsBoundary source start)
    (hstop : IsBoundary source stop) (h : start ≤ stop) :
    ∃ before after, source = before ++ slice source start stop ++ after ∧
      octets before = start ∧ start + octets (slice source start stop) = stop := by
  obtain ⟨before, hbefore, rfl⟩ := hstart
  obtain ⟨whole, hwhole, rfl⟩ := hstop
  obtain ⟨text, rfl⟩ := prefix_of_octets_le hbefore hwhole h
  obtain ⟨after, rfl⟩ := hwhole
  rw [octets_append, slice_octets]
  exact ⟨before, after, rfl, rfl, rfl⟩

end Text

namespace Position

/-- From the position on, its line begins with the name. -/
def PointsAt (source : List Char) (p : Position) (name : List Char) : Prop :=
  1 ≤ p.line.toNat ∧ 1 ≤ p.column.toNat ∧
    ∃ line, (pieces '\n' source)[p.line.toNat - 1]? = some line ∧
      name <+: line.drop (p.column.toNat - 1)

theorem pointsAt_ofOffset {before name after : List Char} {offset : UInt32}
    (hsize : octets (before ++ name ++ after) ≤ SourceFile.sizeLimit)
    (hoffset : octets before = offset.toNat) (hname : name ≠ []) (hline : '\n' ∉ name) :
    PointsAt (before ++ name ++ after) (ofOffset (before ++ name ++ after) offset) name := by
  have hfits : Fits before := by
    have hlength := Nat.le_trans (List.length_pos_of_ne_nil hname) (length_le_octets name)
    rw [octets_append, octets_append] at hsize
    exact fits_of_lt (by omega)
  obtain ⟨hnumber, hcolumn⟩ := hfits.toNat_ofText
  have hreaches : Reaches (before ++ (name ++ after)) offset.toNat before :=
    hoffset ▸ reaches_of_prefix (List.prefix_append _ _)
  have htake : (name ++ after).takeWhile (· != '\n') = name ++ after.takeWhile (· != '\n') := by
    refine List.takeWhile_append_of_pos fun c hc => bne_iff_ne.mpr ?_
    rintro rfl
    exact hline hc
  rw [List.append_assoc, hreaches.ofOffset_eq]
  refine ⟨by omega, by omega, lastLine before ++ (name ++ after).takeWhile (· != '\n'), ?_, ?_⟩
  · rw [hnumber, Nat.add_sub_cancel_left]
    exact getElem?_pieces_count before (name ++ after)
  · rw [hcolumn, Nat.add_sub_cancel_left, List.drop_left, htake]
    exact List.prefix_append _ _

end Position

namespace Kotlin

namespace Concrete

/-- Every node of the tree covers whole characters of the source. -/
inductive OnBoundaries (source : List Char) : Concrete → Prop where
  | node {head : Head} {children : List Concrete} (forward : head.start ≤ head.stop)
      (start : IsBoundary source head.start) (stop : IsBoundary source head.stop)
      (below : ∀ c ∈ children, OnBoundaries source c) : OnBoundaries source (.node head children)

/-- The token begins with its node, and its text is what the node covers. -/
structure Holds (source : List Char) (c : Concrete) (t : Token) : Prop where
  offset : t.offset.toNat = c.head.start
  octets : encoded t.text.toList =
    ((encoded source).drop t.offset.toNat).take (c.head.stop - c.head.start)

variable {source : List Char} {root c : Concrete} {children : List Concrete} {t : Token}

theorem OnBoundaries.get? (h : OnBoundaries source root) {address : List Nat}
    (hget : Concrete.get? address root = some c) : OnBoundaries source c := by
  induction address generalizing root with
  | nil =>
      obtain rfl := Option.some.inj hget
      exact h
  | cons i rest ih =>
      obtain ⟨child, hchild, hbelow⟩ := Option.bind_eq_some_iff.mp hget
      obtain ⟨-, -, -, below⟩ := h
      exact ih (below child (List.mem_of_getElem? hchild)) hbelow

theorem OnBoundaries.exists_text (h : OnBoundaries source c) :
    ∃ before after, source = before ++ c.text source ++ after ∧ octets before = c.head.start ∧
      c.head.start + octets (c.text source) = c.head.stop := by
  obtain ⟨forward, start, stop, -⟩ := h
  exact exists_slice start stop forward

theorem OnBoundaries.toNat_start (h : OnBoundaries source c)
    (hsize : octets source ≤ SourceFile.sizeLimit) :
    c.head.start.toUInt32.toNat = c.head.start := by
  obtain ⟨before, after, hsource, hbefore, -⟩ := h.exists_text
  rw [hsource, octets_append, octets_append] at hsize
  exact toNat_offset (by omega)

theorem OnBoundaries.holds (h : OnBoundaries source c)
    (hsize : octets source ≤ SourceFile.sizeLimit) : Holds source c (c.token source) where
  offset := h.toNat_start hsize
  octets := by
    obtain ⟨before, after, hsource, hbefore, hstop⟩ := h.exists_text
    have hlength : (encoded (c.text source)).length = c.head.stop - c.head.start := by
      rw [length_encoded]
      omega
    have hsplit : encoded source =
        encoded before ++ (encoded (c.text source) ++ encoded after) := by
      rw [← encoded_append, ← encoded_append, ← List.append_assoc, ← hsource]
    rw [token, h.toNat_start hsize, String.toList_ofList, hsplit, ← hlength, ← hbefore,
      ← length_encoded, List.drop_left, List.take_left]

theorem NamedBy.mem (h : NamedBy children c) : c ∈ children := by
  cases h with
  | field lookup _ =>
      obtain ⟨front, back, rfl, -, -⟩ := lookup
      exact List.mem_append_right _ List.mem_cons_self
  | last _ divided identifier => exact List.mem_of_mem_filter (identifier.mem_proper divided)

theorem DeclaredType.mem (h : DeclaredType children c) : c ∈ children := by
  obtain ⟨front, parameters, colon, back, hwhole, -⟩ := h
  refine List.mem_of_mem_filter (?_ : c ∈ proper children)
  rw [hwhole]
  simp

/-- The tokens of a node are its own or those of its children. -/
theorem exists_of_mem_tokens (h : t ∈ (c.nodeKind source).tokens) :
    ∃ d, (d = c ∨ d ∈ c.children) ∧ t = d.token source := by
  unfold nodeKind at h
  split_ifs at h with hfile himport hfunction hidentifier
  · cases h
  · cases h
  · rw [functionDeclaration_eq] at h
    rcases List.mem_append.mp h with hname | htype
    · obtain ⟨d, hd, rfl⟩ := Option.map_eq_some_iff.mp (Option.mem_toList.mp hname)
      exact ⟨d, .inr ((name_eq_some _ d).mp hd).mem, rfl⟩
    · obtain ⟨d, hd, rfl⟩ := Option.map_eq_some_iff.mp (Option.mem_toList.mp htype)
      exact ⟨d, .inr ((returnType?_eq_some _ d).mp hd).mem, rfl⟩
  · exact ⟨c, .inl rfl, List.mem_singleton.mp h⟩
  · cases h

theorem exists_of_token {n : Node} (hn : n ∈ (assemble source root).nodes)
    (ht : t ∈ n.kind.tokens) :
    ∃ address d, Concrete.get? address root = some d ∧ t = d.token source := by
  have hlabel := List.mem_map_of_mem (f := Node.label) hn
  rw [label_nodes] at hlabel
  obtain ⟨⟨address, c⟩, hp, hlabel⟩ := List.mem_map.mp hlabel
  obtain ⟨hget, -⟩ := (mem_visibleNodes root address c).mp hp
  rw [← (Prod.mk.inj hlabel).1] at ht
  obtain ⟨d, rfl | hd, rfl⟩ := exists_of_mem_tokens ht
  · exact ⟨address, d, hget, rfl⟩
  · obtain ⟨i, hi⟩ := List.getElem?_of_mem hd
    refine ⟨address ++ [i], d, ?_, rfl⟩
    simp [get?_append, hget, Concrete.get?, hi]

end Concrete
end Kotlin

namespace FunctionName

/-- The violations of a file are those of functions at some positions of the listing. -/
theorem exists_violations (config : Config) (file : SourceFile) :
    ∃ found : List (Nat × FunctionDeclaration), found.Pairwise (fun a b => a.1 < b.1) ∧
      (∀ p ∈ found, Misnamed file.tree.nodes p.1 p.2) ∧
      (Engine.ofSets RuleSet.shipped config).violations file =
        found.map fun p => (diagnosticOf p.2).locate file.path file.text := by
  obtain ⟨found, hreported, hfound⟩ := reported_visitAll file.tree.nodes
  have hshipped : RuleSet.shipped.flatMap RuleSet.rules = [rule] := rfl
  rw [Engine.violations, Engine.diagnostics_eq_blocks, Engine.rules_ofSets, hshipped]
  by_cases henabled : config.enables rule.id = true
  · refine ⟨found, hreported.ordered, fun p hp => (hreported.positions p.1 p.2).mp hp, ?_⟩
    rw [List.filter_cons, if_pos henabled, List.filter_nil, List.map_singleton,
      List.flatten_singleton, ← rule.diagnostics_check_eq_block, Rule.check, hfound, List.map_map]
    rfl
  · refine ⟨[], .nil, fun p hp => absurd hp List.not_mem_nil, ?_⟩
    rw [List.filter_cons, if_neg henabled]
    rfl

end FunctionName

namespace Kotlin

open Concrete FunctionName Position

variable {source : List Char} {root : Concrete}

theorem pointsAt_token (h : OnBoundaries source root)
    (hsize : octets source ≤ SourceFile.sizeLimit) {n : Node}
    (hn : n ∈ (assemble source root).nodes) {t : Token} (ht : t ∈ n.kind.tokens)
    (hname : t.text ≠ "") (hline : '\n' ∉ t.text.toList) :
    PointsAt source (ofOffset source t.offset) t.text.toList := by
  obtain ⟨address, c, hget, rfl⟩ := exists_of_token hn ht
  have hc := h.get? hget
  obtain ⟨before, after, hsource, hbefore, -⟩ := hc.exists_text
  have htext : (c.token source).text.toList = c.text source := String.toList_ofList
  have hoffset : octets before = (c.token source).offset.toNat :=
    hbefore.trans (hc.toNat_start hsize).symm
  have hne : c.text source ≠ [] := by
    rw [← htext]
    exact mt String.toList_eq_nil_iff.mp hname
  rw [htext] at hline ⊢
  have hpoints := pointsAt_ofOffset (hsource ▸ hsize) hoffset hne hline
  rwa [← hsource] at hpoints

/-- The tokens of a tree are what their nodes cover, and every violation points at the name of its
function. -/
theorem violations_at_names (h : OnBoundaries source root)
    (hsize : octets source ≤ SourceFile.sizeLimit) :
    (∀ n ∈ (assemble source root).nodes, ∀ t ∈ n.kind.tokens,
      ∃ address c, Concrete.get? address root = some c ∧ Holds source c t) ∧
    ∀ path config, ∃ found : List (Nat × FunctionDeclaration),
      found.Pairwise (fun a b => a.1 < b.1) ∧
      (∀ p ∈ found, Misnamed (assemble source root).nodes p.1 p.2) ∧
      (Engine.ofSets RuleSet.shipped config).violations ⟨path, source, assemble source root⟩ =
        found.map (fun p => (diagnosticOf p.2).locate path source) ∧
      ∀ p ∈ found, ∀ t, p.2.name = some t → t.text ≠ "" → '\n' ∉ t.text.toList →
        PointsAt source ((diagnosticOf p.2).locate path source).position t.text.toList := by
  refine ⟨fun n hn t ht => ?_, fun path config => ?_⟩
  · obtain ⟨address, c, hget, rfl⟩ := exists_of_token hn ht
    exact ⟨address, c, hget, (h.get? hget).holds hsize⟩
  · obtain ⟨found, hordered, hmisnamed, hviolations⟩ :=
      exists_violations config ⟨path, source, assemble source root⟩
    refine ⟨found, hordered, hmisnamed, hviolations, fun p hp t hname hne hline => ?_⟩
    obtain ⟨node, hnode, hkind⟩ := (hmisnamed p hp).isFunction
    have ht : t ∈ node.kind.tokens := by
      rw [hkind, NodeKind.tokens, hname]
      exact List.mem_append_left _ List.mem_cons_self
    have hposition : ((diagnosticOf p.2).locate path source).position =
        ofOffset source t.offset := by
      rw [Diagnostic.locate, diagnosticOf, hname]
    rw [hposition]
    exact pointsAt_token h hsize (List.mem_of_getElem? hnode) ht hne hline

def umlautText : List Char :=
  "// ß\n/* é */ fun Ö_b(): É {}".toList

/-- A comment of its own line, and another before a function of that name and return type. -/
def umlautTree : Concrete :=
  namedNode "source_file" 0 32
    [leafAt "line_comment" 0 5 true true, leafAt "block_comment" 6 14 true true,
     namedNode "function_declaration" 15 32
      [leafAt "fun" 15 18 false, .node ⟨"identifier", true, false, .name, 19, 23⟩ [],
       leafAt "function_value_parameters" 23 25, leafAt ":" 25 26 false, leafAt "user_type" 27 29,
       leafAt "function_body" 30 32]]

theorem labels_umlautTree : (assemble umlautText umlautTree).nodes.map Node.label =
    [(.file, 0), (.function ⟨some ⟨"Ö_b", 19⟩, some ⟨"É", 27⟩⟩, 15), (.identifier ⟨"Ö_b", 19⟩, 19),
      (.other "function_value_parameters", 23), (.other "user_type", 27),
      (.other "function_body", 30)] := by
  decide +kernel

theorem onBoundaries_umlautTree : OnBoundaries umlautText umlautTree := by
  have hleaf (head : Head) (h : head.start ≤ head.stop ∧ IsBoundary umlautText head.start ∧
      IsBoundary umlautText head.stop) : OnBoundaries umlautText (.node head []) :=
    .node h.1 h.2.1 h.2.2 nofun
  have hfunction : ∀ c ∈ umlautTree.children[2].children, OnBoundaries umlautText c := by
    intro c hc
    simp only [umlautTree, namedNode, leafAt, Concrete.children, List.getElem_cons_succ,
      List.getElem_cons_zero, List.mem_cons, List.not_mem_nil, or_false] at hc
    rcases hc with rfl | rfl | rfl | rfl | rfl | rfl <;> exact hleaf _ (by decide)
  refine .node (by decide) (by decide) (by decide) ?_
  intro c hc
  simp only [List.mem_cons, List.not_mem_nil, or_false] at hc
  rcases hc with rfl | rfl | rfl
  · exact hleaf _ (by decide)
  · exact hleaf _ (by decide)
  · exact .node (by decide) (by decide) (by decide) hfunction

/-- Counted in octets, the name would be at column 14. -/
theorem violations_umlautTree :
    (∃ address c, Concrete.get? address umlautTree = some c ∧
      Holds umlautText c ⟨"É", 27⟩) ∧
    (Engine.ofSets RuleSet.shipped {}).violations
        ⟨"B.kt", umlautText, assemble umlautText umlautTree⟩ =
      [⟨"B.kt", ⟨2, 13⟩, ruleId, message, false⟩] ∧
    PointsAt umlautText ⟨2, 13⟩ "Ö_b".toList := by
  obtain ⟨htokens, hviolations⟩ := violations_at_names onBoundaries_umlautTree (by decide)
  have hone : (Engine.ofSets RuleSet.shipped {}).violations
      ⟨"B.kt", umlautText, assemble umlautText umlautTree⟩ =
      [⟨"B.kt", ⟨2, 13⟩, ruleId, message, false⟩] := by decide +kernel
  refine ⟨?_, hone, ?_⟩
  · obtain ⟨node, hnode, hkind, -⟩ := exists_of_label (congrArg (·[1]?) labels_umlautTree)
    refine htokens node (List.mem_of_getElem? hnode) ⟨"É", 27⟩ ?_
    rw [hkind]
    decide
  · obtain ⟨found, -, hmisnamed, hfound, hpoints⟩ := hviolations "B.kt" {}
    obtain ⟨p, rfl, hlocated⟩ := List.map_eq_singleton_iff.mp (hfound.symm.trans hone)
    obtain ⟨node, hnode, hkind⟩ := (hmisnamed p List.mem_cons_self).isFunction
    have hlabel := List.mem_map_of_mem (f := Node.label) (List.mem_of_getElem? hnode)
    rw [labels_umlautTree, Node.label, hkind] at hlabel
    obtain ⟨hf, -⟩ : p.2 = ⟨some ⟨"Ö_b", 19⟩, some ⟨"É", 27⟩⟩ ∧ node.offset = 15 := by
      simpa using hlabel
    have hname := congrArg FunctionDeclaration.name hf
    have hpoint := hpoints p List.mem_cons_self _ hname (by decide) (by decide)
    rwa [hlocated] at hpoint

end Kotlin
end NamingLint
