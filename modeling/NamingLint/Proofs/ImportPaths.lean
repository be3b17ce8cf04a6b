import Mathlib.Data.List.Flatten
import NamingLint.Proofs.ImportNames
import NamingLint.Proofs.TextualOrder

/-!
The paths of imports. The path of an import that the parser leaves is made of its identifiers with
single dots between them, whatever stands around its name: an alias, a wildcard, comments, blanks or
the ends of lines. Inside the name blanks and the ends of lines do not count either, but comments
do, because the name is cut out of the source as a whole. Imports that the parser cannot read are
not considered here.
-/

namespace NamingLint.Kotlin

open Text

variable {source : List Char}

/-- The text of a name ends in a character that neither blanks nor dots are taken for. -/
theorem IsName.ends {text : List Char} (h : IsName text) :
    ∃ front x, removeSpace text = front ++ [x] ∧ x ≠ '.' := by
  cases h with
  | word written hparts =>
      have hsolid : removeSpace text = text :=
        List.filter_eq_self.mpr fun x hx => by simp [(hparts x hx).1]
      refine ⟨text.dropLast, text.getLast written, ?_, (hparts _ (List.getLast_mem written)).2⟩
      rw [hsolid, List.dropLast_append_getLast]
  | quoted inner =>
      refine ⟨removeSpace ('\x60' :: inner), '\x60', ?_, by decide⟩
      rw [removeSpace_append]
      rfl

theorem dropTrailingDots_concat {front : List Char} {x : Char} (h : x ≠ '.') :
    Concrete.dropTrailingDots (front ++ [x]) = front ++ [x] := by
  simp [Concrete.dropTrailingDots, h]

theorem dropTrailingDots_dot (text : List Char) :
    Concrete.dropTrailingDots (text ++ ['.']) = Concrete.dropTrailingDots text := by
  simp [Concrete.dropTrailingDots]

theorem Dotted.solid_ends {parts : List Concrete} (h : Dotted source parts) :
    ∃ front x, parts.flatMap (Concrete.solid source) = front ++ [x] ∧ x ≠ '.' := by
  obtain ⟨before, c, rfl, hc⟩ := h.last
  obtain ⟨front, x, hsolid, hx⟩ := hc.name.ends
  refine ⟨before.flatMap (Concrete.solid source) ++ front, x, ?_, hx⟩
  rw [List.flatMap_append, List.flatMap_singleton, Concrete.solid, hsolid, List.append_assoc]

theorem pathText_ended {read : List Char} (hread : read ≠ []) {rest : List Concrete}
    (h : ∀ c ∈ rest.head?, isPathKind c.kind = false) :
    Concrete.pathText source read rest = read := by
  cases rest with
  | nil => rfl
  | cons c rest =>
      have hempty : read.isEmpty = false := by simpa using hread
      simp [Concrete.pathText, h c rfl, hempty]

/-- What follows the name adds at most a dot to the path. -/
theorem IsSuffix.pathText {suffix : List Concrete} (h : IsSuffix source suffix) {read : List Char}
    (hread : read ≠ []) :
    Concrete.pathText source read suffix = read ∨
      Concrete.pathText source read suffix = read ++ ['.'] := by
  cases h with
  | other h => exact .inl (pathText_ended hread h)
  | @wildcard dot star rest hdot hstar =>
      have hpath : isPathKind dot.kind = true := by rw [hdot.kind]; decide
      have hended : ∀ c ∈ (star :: rest).head?, isPathKind c.kind = false :=
        fun c hc => Option.mem_some.mp hc ▸ hstar
      right
      rw [Concrete.pathText, if_pos hpath, hdot.text]
      exact pathText_ended (List.append_ne_nil_of_left_ne_nil hread _) hended

/-- The path is made of the parts of the qualified name, without white space. -/
theorem IsImport.importPath {c word q : Concrete} {suffix : List Concrete}
    (h : IsImport source c word q suffix) :
    Concrete.importPath source c.children =
      some (String.ofList (q.children.flatMap (Concrete.solid source))) := by
  obtain ⟨front, x, hsolid, hx⟩ := h.name.parts.solid_ends
  have hname : removeSpace (q.text source) = front ++ [x] := h.name.solid.trans hsolid
  have hread : q.text source ≠ [] := by
    intro hnil
    rw [hnil] at hname
    exact List.append_ne_nil_of_right_ne_nil front (List.cons_ne_nil x []) hname.symm
  have hword : isPathKind word.kind = false := by rw [h.word]; decide
  have hqualified : isPathKind q.kind = true := by rw [h.name.kind]; decide
  have hstart : Concrete.pathText source [] (word :: q :: suffix) =
      Concrete.pathText source (q.text source) suffix := by
    simp [Concrete.pathText, hword, hqualified]
  have hpath : Concrete.dropTrailingDots
      (removeSpace (Concrete.pathText source [] (word :: q :: suffix))) = front ++ [x] := by
    rw [hstart]
    rcases h.suffix.pathText hread with hsuffix | hsuffix
    · rw [hsuffix, hname, dropTrailingDots_concat hx]
    · have hdot : removeSpace ['.'] = ['.'] := by decide
      rw [hsuffix, removeSpace_append, hname, hdot, dropTrailingDots_dot,
        dropTrailingDots_concat hx]
  unfold Concrete.importPath
  rw [h.children, hpath, hsolid]
  simp

/-- The texts of the identifiers among the parts of a name. -/
def identifierTexts (source : List Char) (parts : List Concrete) : List (List Char) :=
  (parts.filter Concrete.isIdentifier).map (Concrete.text source)

theorem identifierTexts_append (a b : List Concrete) :
    identifierTexts source (a ++ b) = identifierTexts source a ++ identifierTexts source b := by
  rw [identifierTexts, List.filter_append, List.map_append]
  rfl

theorem identifierTexts_comments {comments : List Concrete}
    (h : ∀ c ∈ comments, IsComment source c) : identifierTexts source comments = [] := by
  refine List.map_eq_nil_iff.mpr (List.filter_eq_nil_iff.mpr fun c hc => ?_)
  unfold Concrete.isIdentifier
  rcases (h c hc).kind with hkind | hkind <;> rw [hkind] <;> decide

theorem IsIdentifier.identifierTexts {c : Concrete} (h : IsIdentifier source c) :
    identifierTexts source [c] = [c.text source] := by
  have hkind : c.isIdentifier = true := by rw [Concrete.isIdentifier, h.kind]; decide
  simp [Kotlin.identifierTexts, hkind]

theorem IsDot.identifierTexts {c : Concrete} (h : IsDot source c) :
    identifierTexts source [c] = [] := by
  have hkind : c.isIdentifier = false := by rw [Concrete.isIdentifier, h.kind]; decide
  simp [Kotlin.identifierTexts, hkind]

theorem Dotted.identifierTexts_ne_nil {parts : List Concrete} (h : Dotted source parts) :
    identifierTexts source parts ≠ [] := by
  obtain ⟨front, c, rfl, hc⟩ := h.last
  rw [identifierTexts_append, hc.identifierTexts]
  exact List.append_ne_nil_of_right_ne_nil _ (List.cons_ne_nil _ _)

theorem intercalate_concat {α : Type} (sep last : List α) {parts : List (List α)}
    (h : parts ≠ []) :
    sep.intercalate (parts ++ [last]) = sep.intercalate parts ++ sep ++ last := by
  induction parts with
  | nil => exact absurd rfl h
  | cons first rest ih =>
      cases rest with
      | nil => simp
      | cons second rest =>
          have hne : second :: rest ≠ [] := List.cons_ne_nil _ _
          rw [List.cons_append, List.cons_append, List.intercalate_cons_cons, ← List.cons_append,
            ih hne, List.intercalate_cons_cons]
          simp

/-- Without the comments, a dotted name is its identifiers with dots between them. -/
theorem Dotted.text_proper {parts : List Concrete} (h : Dotted source parts) :
    (Concrete.proper parts).flatMap (Concrete.text source) =
      ['.'].intercalate (identifierTexts source parts) := by
  induction h with
  | @name c h =>
      rw [h.identifierTexts]
      simp [Concrete.proper, h.proper]
  | @dot parts comments comments' dot c before hcomments hdot hcomments' h ih =>
      have hfirst : Concrete.proper [dot] = [dot] := by simp [Concrete.proper, hdot.proper]
      have hlast : Concrete.proper [c] = [c] := by simp [Concrete.proper, h.proper]
      simp only [identifierTexts_append, identifierTexts_comments hcomments, hdot.identifierTexts,
        identifierTexts_comments hcomments', h.identifierTexts, List.append_nil]
      rw [intercalate_concat _ _ before.identifierTexts_ne_nil, ← ih]
      simp only [proper_append, proper_comments hcomments, proper_comments hcomments', hfirst,
        hlast, List.append_nil, List.flatMap_append, List.flatMap_singleton, hdot.text]

theorem Dotted.comment {parts : List Concrete} (h : Dotted source parts) {c : Concrete}
    (hc : c ∈ parts) (hextra : c.head.extra = true) : IsComment source c := by
  induction h with
  | @name d h =>
      rw [List.mem_singleton.mp hc, h.proper] at hextra
      cases hextra
  | @dot parts comments comments' dot d before hcomments hdot hcomments' h ih =>
      simp only [List.mem_append, List.mem_singleton] at hc
      rcases hc with (((hc | hc) | rfl) | hc) | rfl
      · exact ih hc
      · exact hcomments c hc
      · exact absurd (hdot.proper.symm.trans hextra) Bool.false_ne_true
      · exact hcomments' c hc
      · exact absurd (h.proper.symm.trans hextra) Bool.false_ne_true

theorem removeSpace_intercalate (names : List (List Char)) :
    removeSpace (['.'].intercalate names) = ['.'].intercalate (names.map removeSpace) := by
  induction names with
  | nil => rfl
  | cons first rest ih =>
      cases rest with
      | nil => simp
      | cons second rest =>
          have hdot : removeSpace ['.'] = ['.'] := by decide
          rw [List.intercalate_cons_cons, removeSpace_append, removeSpace_append, hdot, ih]
          simp

theorem mem_intercalate {α : Type} {sep part : List α} {parts : List (List α)} (h : part ∈ parts)
    {x : α} (hx : x ∈ part) : x ∈ sep.intercalate parts := by
  induction parts with
  | nil => cases h
  | cons first rest ih =>
      cases rest with
      | nil =>
          obtain rfl := List.mem_singleton.mp h
          simpa using hx
      | cons second rest =>
          rw [List.intercalate_cons_cons]
          rcases List.mem_cons.mp h with rfl | h
          · simp [hx]
          · exact List.mem_append_right _ (ih h)

theorem removeSpace_flatMap (f : Concrete → List Char) (parts : List Concrete) :
    removeSpace (parts.flatMap f) = parts.flatMap fun d => removeSpace (f d) := by
  rw [removeSpace, List.filter_flatMap]
  rfl

/-- Where leaving some parts out changes nothing, these parts are empty. -/
theorem eq_nil_of_flatMap_filter {α β : Type} {f : α → List β} {p : α → Bool} {parts : List α}
    (h : parts.flatMap f = (parts.filter p).flatMap f) {a : α} (ha : a ∈ parts)
    (hp : p a = false) : f a = [] := by
  induction parts with
  | nil => cases ha
  | cons first rest ih =>
      cases hfirst : p first with
      | true =>
          rw [List.filter_cons_of_pos hfirst, List.flatMap_cons, List.flatMap_cons] at h
          rcases List.mem_cons.mp ha with rfl | ha
          · exact absurd (hp.symm.trans hfirst) Bool.false_ne_true
          · exact ih (List.append_cancel_left h) ha
      | false =>
          rw [List.filter_cons_of_neg (by simp [hfirst]), List.flatMap_cons] at h
          have hshort : ((rest.filter p).flatMap f).length ≤ (rest.flatMap f).length :=
            (List.filter_sublist.flatMap f).length_le
          have hlength := congrArg List.length h
          rw [List.length_append] at hlength
          have hempty : f first = [] := List.length_eq_zero_iff.mp (by omega)
          rcases List.mem_cons.mp ha with rfl | ha
          · exact hempty
          · rw [hempty, List.nil_append] at h
            exact ih h ha

theorem removeSpace_eq_self {text : List Char} :
    removeSpace text = text ↔ ∀ x ∈ text, isSpace x = false := by
  simp [removeSpace, List.filter_eq_self]

theorem Dotted.removeSpace_joined {parts : List Concrete} (h : Dotted source parts) :
    removeSpace (['.'].intercalate (identifierTexts source parts)) =
      (Concrete.proper parts).flatMap (Concrete.solid source) := by
  rw [← h.text_proper, removeSpace_flatMap]
  rfl

/-- Where no comment stands in a dotted name, it is its identifiers up to white space in them. -/
theorem Dotted.solid_uncommented {parts : List Concrete} (h : Dotted source parts)
    (hbare : ∀ d ∈ parts, d.head.extra = false) :
    parts.flatMap (Concrete.solid source) =
      ['.'].intercalate ((identifierTexts source parts).map removeSpace) := by
  have hproper : Concrete.proper parts = parts :=
    List.filter_eq_self.mpr fun d hd => by simp [hbare d hd]
  rw [← removeSpace_intercalate, h.removeSpace_joined, hproper]

/-- A comment shows in what is left of a dotted name, and so does white space that is missing. -/
theorem Dotted.solid_eq_iff {parts : List Concrete} (h : Dotted source parts) :
    parts.flatMap (Concrete.solid source) = ['.'].intercalate (identifierTexts source parts) ↔
      (∀ d ∈ parts, d.head.extra = false) ∧
        ∀ name ∈ identifierTexts source parts, ∀ x ∈ name, isSpace x = false := by
  constructor
  · intro hjoined
    have hspace : ∀ x ∈ ['.'].intercalate (identifierTexts source parts), isSpace x = false := by
      rw [← hjoined]
      intro x hx
      obtain ⟨d, -, hx⟩ := List.mem_flatMap.mp hx
      simpa using (List.mem_filter.mp hx).2
    have hsame := hjoined.trans
      ((removeSpace_eq_self.mpr hspace).symm.trans h.removeSpace_joined)
    refine ⟨fun d hd => ?_, fun name hname x hx => hspace x (mem_intercalate hname hx)⟩
    cases hextra : d.head.extra with
    | false => rfl
    | true =>
        have hempty := eq_nil_of_flatMap_filter hsame hd (by simp [hextra])
        exact absurd hempty (h.comment hd hextra).solid
  · rintro ⟨hbare, hspace⟩
    have hnames : (identifierTexts source parts).map removeSpace = identifierTexts source parts :=
      (List.map_congr_left fun name hname => removeSpace_eq_self.mpr (hspace name hname)).trans
        (List.map_id _)
    rw [h.solid_uncommented hbare, hnames]

namespace Concrete

/-- The parts of the qualified name of an import. -/
def nameParts (c : Concrete) : List Concrete :=
  ((proper c.children).find? fun d => d.kind == "qualified_identifier").elim [] children

/-- The identifiers of the qualified name of an import, each as it is written. -/
def importNames (source : List Char) (c : Concrete) : List (List Char) :=
  identifierTexts source c.nameParts

/-- No comment stands between the identifiers of the name. -/
def Uncommented (c : Concrete) : Prop :=
  ∀ d ∈ c.nameParts, d.head.extra = false

end Concrete

/-- Names joined by single dots. -/
def dotted (names : List (List Char)) : String :=
  String.ofList (['.'].intercalate names)

/-- The path of an import, compared to its identifiers as they are written. -/
structure Resolved (source : List Char) (c : Concrete) : Prop where
  named : c.importNames source ≠ []
  path : c.Uncommented → Concrete.importPath source c.children =
    some (dotted ((c.importNames source).map removeSpace))
  exact : Concrete.importPath source c.children = some (dotted (c.importNames source)) ↔
    c.Uncommented ∧ ∀ name ∈ c.importNames source, ∀ x ∈ name, isSpace x = false

variable {c word q : Concrete} {suffix : List Concrete}

theorem IsImport.nameParts (h : IsImport source c word q suffix) : c.nameParts = q.children := by
  have hword : (word.kind == "qualified_identifier") = false := by rw [h.word]; decide
  have hname : (q.kind == "qualified_identifier") = true := by rw [h.name.kind]; decide
  simp [Concrete.nameParts, h.children, hword, hname]

theorem IsImport.resolved (h : IsImport source c word q suffix) : Resolved source c := by
  have hpath := h.importPath
  have hparts := h.name.parts
  rw [← h.nameParts] at hpath hparts
  refine ⟨hparts.identifierTexts_ne_nil, fun hbare => ?_, ?_⟩
  · rw [hpath, hparts.solid_uncommented hbare]
    rfl
  · rw [hpath, Option.some_inj, dotted, String.ofList_inj]
    exact hparts.solid_eq_iff

end NamingLint.Kotlin
