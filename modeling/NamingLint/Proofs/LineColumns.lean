import Mathlib.Data.List.Infix
import NamingLint.Proofs.LastLines
import NamingLint.Proofs.ParserInvariants
import NamingLint.SourceFile.Loading

/-!
Lines and columns as they are counted. A position says how many line feeds stand before a place in
a text and how many characters stand between the last of them and the place, each plus one and
modulo 2^32. Where neither number exceeds its word, positions are ordered as the places are, and
the place is found again from its position. A source that is accepted exceeds a word in one way
only: with all of its octets in one line, or all of them line feeds, and none left to come.
-/

namespace NamingLint.Text

theorem length_le_octets (text : List Char) : text.length ≤ octets text := by
  induction text with
  | nil => exact Nat.le_refl 0
  | cons c text ih =>
      have hsize := c.utf8Size_pos
      rw [octets_cons, List.length_cons]
      omega

theorem prefix_of_octets_le {source a b : List Char} (ha : a <+: source) (hb : b <+: source)
    (h : octets a ≤ octets b) : a <+: b := by
  rcases List.prefix_or_prefix_of_prefix ha hb with hab | ⟨rest, rfl⟩
  · exact hab
  · rw [octets_append] at h
    have hrest : rest.length = 0 := by
      have := length_le_octets rest
      omega
    rw [List.length_eq_zero_iff.mp hrest, List.append_nil]

theorem octets_replicate (n : Nat) (c : Char) :
    octets (List.replicate n c) = n * c.utf8Size := by
  induction n with
  | zero => rw [Nat.zero_mul]; rfl
  | succ n ih => rw [List.replicate_succ, octets_cons, ih, Nat.succ_mul, Nat.add_comm]

end NamingLint.Text

namespace NamingLint.Position

open Text

variable {source before : List Char}

/-- The place at which an offset is taken to be: `before` stands before it. No character begins
between the offset, or the end of the text, and the place. -/
structure Reaches (source : List Char) (offset : Nat) (before : List Char) : Prop where
  isPrefix : before <+: source
  far : min offset (octets source) ≤ octets before
  first : ∀ other, other <+: source → min offset (octets source) ≤ octets other →
    octets before ≤ octets other

/-- The line and the column behind a text can be written in 32 bits. -/
structure Fits (before : List Char) : Prop where
  line : 1 + before.count '\n' < UInt32.size
  column : 1 + (lastLine before).length < UInt32.size

def Precedes (p q : Position) : Prop :=
  p.line < q.line ∨ p.line = q.line ∧ p.column < q.column

/-- The octet at which a position lies: full lines, and some characters of the next one. -/
def offsetIn (source : List Char) (p : Position) : Nat :=
  octets (((pieces '\n' source).take (p.line.toNat - 1)).flatMap (· ++ ['\n'])) +
    octets (((pieces '\n' source).getD (p.line.toNat - 1) []).take (p.column.toNat - 1))

/-- A place of the text: one of its lines, and a character of the line or its end. -/
def LiesIn (source : List Char) (p : Position) : Prop :=
  ∃ line, (pieces '\n' source)[p.line.toNat - 1]? = some line ∧
    1 ≤ p.line.toNat ∧ p.line.toNat ≤ 1 + source.count '\n' ∧
    1 ≤ p.column.toNat ∧ p.column.toNat ≤ line.length + 1

/-- The position at the end of a text. -/
def ofText (text : List Char) : Position :=
  ⟨UInt32.ofNat (1 + text.count '\n'), UInt32.ofNat (1 + (lastLine text).length)⟩

theorem ofText_concat (text : List Char) (c : Char) :
    ofText (text ++ [c]) = (ofText text).advance c := by
  unfold ofText advance
  by_cases hc : c = '\n'
  · have hline : UInt32.ofNat (1 + (text.count '\n' + 1)) = UInt32.ofNat (1 + text.count '\n') + 1 :=
      UInt32.ofNat_add _ 1
    rw [if_pos hc, hc, List.count_append, List.count_singleton_self, lastLine_newline, hline]
    rfl
  · have hsingle : '\n' ∉ [c] := fun h => hc (List.mem_singleton.mp h).symm
    have hcolumn : UInt32.ofNat (1 + ((lastLine text).length + 1)) =
        UInt32.ofNat (1 + (lastLine text).length) + 1 := UInt32.ofNat_add _ 1
    rw [if_neg hc, List.count_append, List.count_eq_zero.mpr hsingle, lastLine_append hsingle,
      List.length_append, List.length_singleton, hcolumn]
    rfl

theorem foldl_advance (text : List Char) : text.foldl advance origin = ofText text := by
  induction text using List.reverseRecOn with
  | nil => rfl
  | append_singleton text c ih =>
      rw [List.foldl_append, ih, ofText_concat]
      rfl

theorem reaches_nil (source : List Char) : Reaches source 0 [] where
  isPrefix := List.nil_prefix
  far := by rw [Nat.zero_min]; exact Nat.zero_le _
  first := fun _ _ _ => Nat.zero_le _

theorem Reaches.cons {c : Char} {offset : Nat} (h : Reaches source (offset - c.utf8Size) before)
    (hpos : 0 < offset) : Reaches (c :: source) offset (c :: before) where
  isPrefix := (List.prefix_cons_inj c).mpr h.isPrefix
  far := by
    have hfar := h.far
    rw [octets_cons, octets_cons]
    omega
  first := by
    intro other hother hmin
    have hsize := c.utf8Size_pos
    rw [octets_cons] at hmin ⊢
    cases other with
    | nil =>
        have hzero : octets [] = 0 := rfl
        omega
    | cons d other =>
        obtain ⟨rfl, hrest⟩ := List.cons_prefix_cons.mp hother
        have hfirst := h.first other hrest
        rw [octets_cons] at hmin ⊢
        omega

/-- The scan counts what stands before the place that it is to reach, and no more. -/
theorem reaches_scan (limit index : Nat) (p : Position) (source : List Char) :
    ∃ before, Reaches source (limit - index) before ∧
      scan limit index p source = before.foldl advance p := by
  induction source generalizing index p with
  | nil => exact ⟨[], ⟨List.nil_prefix, Nat.min_le_right _ _, fun _ _ _ => Nat.zero_le _⟩, rfl⟩
  | cons c rest ih =>
      by_cases hlimit : limit ≤ index
      · refine ⟨[], ?_, by rw [scan, if_pos hlimit]; rfl⟩
        rw [Nat.sub_eq_zero_of_le hlimit]
        exact reaches_nil _
      · obtain ⟨before, hreaches, hscan⟩ := ih (index + c.utf8Size) (p.advance c)
        rw [← Nat.sub_sub] at hreaches
        exact ⟨c :: before, hreaches.cons (by omega), by rw [scan, if_neg hlimit, hscan]; rfl⟩

theorem exists_reaches (source : List Char) (offset : UInt32) :
    ∃ before, Reaches source offset.toNat before ∧ ofOffset source offset = ofText before := by
  obtain ⟨before, hreaches, hscan⟩ := reaches_scan offset.toNat 0 origin source
  exact ⟨before, hreaches, hscan.trans (foldl_advance before)⟩

/-- An offset is taken to be at one place. -/
theorem Reaches.unique {offset : Nat} {other : List Char} (h : Reaches source offset before)
    (h' : Reaches source offset other) : before = other := by
  have hle := h.first other h'.isPrefix h'.far
  have hge := h'.first before h.isPrefix h.far
  have hbegins := prefix_of_octets_le h.isPrefix h'.isPrefix hle
  exact hbegins.eq_of_length_le (prefix_of_octets_le h'.isPrefix h.isPrefix hge).length_le

/-- At an offset where a character begins or the text ends, the place is there. -/
theorem reaches_of_prefix (h : before <+: source) : Reaches source (octets before) before where
  isPrefix := h
  far := Nat.min_le_left _ _
  first := by
    intro other hother hmin
    obtain ⟨rest, rfl⟩ := h
    rw [octets_append] at hmin
    omega

/-- No offset is taken to be behind the end of the text. -/
theorem reaches_end {offset : Nat} (h : octets source ≤ offset) : Reaches source offset source where
  isPrefix := List.prefix_rfl
  far := Nat.min_le_right _ _
  first := fun _ _ hmin => Nat.min_eq_right h ▸ hmin

theorem Reaches.ofOffset_eq {offset : UInt32} (h : Reaches source offset.toNat before) :
    ofOffset source offset = ofText before := by
  obtain ⟨other, hother, heq⟩ := exists_reaches source offset
  rw [heq, h.unique hother]

theorem Fits.toNat_ofText (h : Fits before) :
    (ofText before).line.toNat = 1 + before.count '\n' ∧
      (ofText before).column.toNat = 1 + (lastLine before).length :=
  ⟨UInt32.toNat_ofNat_of_lt' h.line, UInt32.toNat_ofNat_of_lt' h.column⟩

/-- A text that goes on ends in a later line, or farther right in the same line. -/
theorem ofText_precedes {rest : List Char} (h : Fits before) (h' : Fits (before ++ rest))
    (hne : rest ≠ []) : Precedes (ofText before) (ofText (before ++ rest)) := by
  obtain ⟨hline, hcolumn⟩ := h.toNat_ofText
  obtain ⟨hline', hcolumn'⟩ := h'.toNat_ofText
  rw [List.count_append] at hline'
  unfold Precedes
  rw [UInt32.lt_iff_toNat_lt, UInt32.lt_iff_toNat_lt, ← UInt32.toNat_inj, hline, hline', hcolumn,
    hcolumn']
  by_cases hbreak : '\n' ∈ rest
  · have hpos := List.count_pos_iff.mpr hbreak
    left
    omega
  · have hlength := List.length_pos_of_ne_nil hne
    right
    rw [List.count_eq_zero.mpr hbreak, lastLine_append hbreak, List.length_append]
    omega

theorem Fits.offsetIn_ofText (h : Fits before) (hbegins : before <+: source) :
    offsetIn source (ofText before) = octets before := by
  obtain ⟨hline, hcolumn⟩ := h.toNat_ofText
  obtain ⟨rest, rfl⟩ := hbegins
  obtain ⟨full, others, hpieces, hlength, hfull⟩ := exists_fullLines before rest
  have hbefore : (pieces '\n' (before ++ rest)).take (before.count '\n') = full := by
    rw [hpieces, ← hlength, List.take_left]
  rw [offsetIn, hline, hcolumn, Nat.add_sub_cancel_left, Nat.add_sub_cancel_left, hbefore,
    List.getD_eq_getElem?_getD, getElem?_pieces_count, Option.getD_some, List.take_left,
    ← octets_append, hfull]

theorem Fits.liesIn_ofText (h : Fits before) (hbegins : before <+: source) :
    LiesIn source (ofText before) := by
  obtain ⟨hline, hcolumn⟩ := h.toNat_ofText
  obtain ⟨rest, rfl⟩ := hbegins
  refine ⟨lastLine before ++ rest.takeWhile (· != '\n'), ?_, ?_, ?_, ?_, ?_⟩
  · rw [hline, Nat.add_sub_cancel_left]
    exact getElem?_pieces_count before rest
  · omega
  · rw [hline, List.count_append]
    omega
  · omega
  · rw [hcolumn, List.length_append]
    omega

/-- Where its numbers fit, the position of an offset is that of the first place at or behind it,
which can be found again from the position. At places where characters begin or the text ends,
positions are in the order of the offsets. -/
theorem ofOffset_place (source : List Char) :
    (∀ offset : UInt32, ∃ before, Reaches source offset.toNat before ∧
      (Fits before →
        (ofOffset source offset).line.toNat = 1 + before.count '\n' ∧
        (ofOffset source offset).column.toNat = 1 + (lastLine before).length ∧
        offsetIn source (ofOffset source offset) = octets before ∧
        LiesIn source (ofOffset source offset))) ∧
    ∀ (a b : UInt32) (before before' : List Char),
      before <+: source → octets before = a.toNat → Fits before →
      before' <+: source → octets before' = b.toNat → Fits before' →
      (a < b → Precedes (ofOffset source a) (ofOffset source b)) ∧
        (ofOffset source a = ofOffset source b → a = b) := by
  refine ⟨fun offset => ?_, ?_⟩
  · obtain ⟨before, hreaches, hposition⟩ := exists_reaches source offset
    refine ⟨before, hreaches, fun h => ?_⟩
    rw [hposition]
    exact ⟨h.toNat_ofText.1, h.toNat_ofText.2, h.offsetIn_ofText hreaches.isPrefix,
      h.liesIn_ofText hreaches.isPrefix⟩
  · intro a b before before' hbegins ha h hbegins' hb h'
    have hposition : ofOffset source a = ofText before :=
      (ha ▸ reaches_of_prefix hbegins : Reaches source a.toNat before).ofOffset_eq
    have hposition' : ofOffset source b = ofText before' :=
      (hb ▸ reaches_of_prefix hbegins' : Reaches source b.toNat before').ofOffset_eq
    rw [hposition, hposition']
    refine ⟨fun hlt => ?_, fun heq => ?_⟩
    · have hoctets : octets before < octets before' := by
        rw [ha, hb]
        exact UInt32.lt_iff_toNat_lt.mp hlt
      obtain ⟨rest, rfl⟩ := prefix_of_octets_le hbegins hbegins' (Nat.le_of_lt hoctets)
      refine ofText_precedes h h' fun hnil => ?_
      rw [hnil, List.append_nil] at hoctets
      exact Nat.lt_irrefl _ hoctets
    · have hoctets := congrArg (offsetIn source) heq
      rw [h.offsetIn_ofText hbegins, h'.offsetIn_ofText hbegins', ha, hb] at hoctets
      exact UInt32.toNat_inj.mp hoctets

def twoLines : List Char := "aÜ\nÖb".toList

theorem reaches_twoLines : Reaches twoLines 5 "aÜ\nÖ".toList where
  isPrefix := ⟨['b'], rfl⟩
  far := by decide
  first := by
    intro other hother
    have hall : ∀ other ∈ twoLines.inits, min 5 (octets twoLines) ≤ octets other →
        octets "aÜ\nÖ".toList ≤ octets other := by decide
    exact hall other ((List.mem_inits _ _).mpr hother)

/-- An offset inside a character of two octets is that of the next character. -/
theorem ofOffset_twoLines :
    (ofOffset twoLines 5).line.toNat = 2 ∧ (ofOffset twoLines 5).column.toNat = 2 ∧
      offsetIn twoLines (ofOffset twoLines 5) = 6 ∧ LiesIn twoLines (ofOffset twoLines 5) ∧
      Precedes (ofOffset twoLines 3) (ofOffset twoLines 6) := by
  obtain ⟨hplace, hordered⟩ := ofOffset_place twoLines
  obtain ⟨before, hreaches, hexact⟩ := hplace 5
  obtain rfl := hreaches.unique reaches_twoLines
  have hfits : Fits "aÜ\nÖ".toList := ⟨by decide, by decide⟩
  obtain ⟨hline, hcolumn, hoffset, hlies⟩ := hexact hfits
  refine ⟨hline, hcolumn, hoffset, hlies, ?_⟩
  exact (hordered 3 6 "aÜ".toList "aÜ\nÖ".toList ⟨"\nÖb".toList, rfl⟩ (by decide)
    ⟨by decide, by decide⟩ ⟨['b'], rfl⟩ (by decide) hfits).1 (by decide)

/-- Every octet of a text of the greatest size is a character, no two lines or else no characters
but line feeds are in it, and the offset is at its end. -/
structure Exhausts (source : List Char) (offset : UInt32) : Prop where
  full : source.length = SourceFile.sizeLimit
  atEnd : offset.toNat = SourceFile.sizeLimit
  uniform : '\n' ∉ source ∨ ∀ c ∈ source, c = '\n'

theorem fits_of_lt (h : octets before < SourceFile.sizeLimit) : Fits before := by
  have hcount : before.count '\n' ≤ octets before :=
    Nat.le_trans List.count_le_length (length_le_octets before)
  have hlast := Nat.le_trans (lastLine_suffix before).length_le (length_le_octets before)
  have hlimit : SourceFile.sizeLimit + 1 = UInt32.size := rfl
  constructor <;> omega

theorem fits_or_exhausts {offset : UInt32} (h : Reaches source offset.toNat before)
    (hsize : octets source ≤ SourceFile.sizeLimit) : Fits before ∨ Exhausts source offset := by
  by_cases hfits : Fits before
  · exact .inl hfits
  right
  have hlimit : SourceFile.sizeLimit + 1 = UInt32.size := rfl
  have hfar : SourceFile.sizeLimit ≤ octets before := Nat.not_lt.mp (mt fits_of_lt hfits)
  have hwhole := prefix_of_octets_le List.prefix_rfl h.isPrefix (Nat.le_trans hsize hfar)
  obtain rfl : before = source := h.isPrefix.eq_of_length_le hwhole.length_le
  have hcount := List.count_le_length (a := '\n') (l := before)
  have hlast := (lastLine_suffix before).length_le
  have hoctets := length_le_octets before
  have hwide : SourceFile.sizeLimit ≤ before.count '\n' ∨
      SourceFile.sizeLimit ≤ (lastLine before).length := by
    by_contra hnarrow
    exact hfits ⟨by omega, by omega⟩
  have hfull : before.length = SourceFile.sizeLimit := by omega
  refine ⟨hfull, ?_, ?_⟩
  · -- At a smaller offset the scan would have stopped one character earlier.
    by_contra hne
    have hoffset : offset.toNat ≤ SourceFile.sizeLimit := Nat.le_of_lt_succ offset.toNat_lt
    rcases before.eq_nil_or_concat' with rfl | ⟨front, c, rfl⟩
    · cases hfull
    · have hfront := length_le_octets front
      have hsizeLast := c.utf8Size_pos
      have hfirst := h.first front (List.prefix_append _ _)
      rw [octets_append, octets_cons] at hfirst
      rw [List.length_append, List.length_singleton] at hfull
      omega
  · rcases hwide with hwide | hwide
    · have hall := List.count_eq_length.mp (Nat.le_antisymm hcount (by omega))
      exact .inr fun c hc => (hall c hc).symm
    · have hline := (lastLine_suffix before).eq_of_length_le (by omega)
      exact .inl (hline ▸ notMem_lastLine before)

theorem Exhausts.ofText_wraps {offset : UInt32} (h : Exhausts source offset) :
    (ofText source).line = 0 ∨ (ofText source).column = 0 := by
  rcases h.uniform with hnone | hall
  · right
    have hline : lastLine source = source := lastLine_append hnone []
    rw [ofText, hline, h.full]
    rfl
  · left
    have hcount := List.count_eq_length.mpr fun c hc => (hall c hc).symm
    rw [ofText, hcount, h.full]
    rfl

/-- Of a source that is accepted, the numbers of a position are exact, unless every octet of a
source of the greatest size is counted in one of them; then this one is zero. -/
theorem ofOffset_exact (h : octets source ≤ SourceFile.sizeLimit) (offset : UInt32) :
    ∃ before, Reaches source offset.toNat before ∧
      (¬ Exhausts source offset ↔
        (ofOffset source offset).line.toNat = 1 + before.count '\n' ∧
          (ofOffset source offset).column.toNat = 1 + (lastLine before).length) ∧
      (Exhausts source offset ↔
        (ofOffset source offset).line = 0 ∨ (ofOffset source offset).column = 0) := by
  obtain ⟨before, hreaches, hposition⟩ := exists_reaches source offset
  have hwraps : Exhausts source offset → (ofText before).line = 0 ∨ (ofText before).column = 0 := by
    intro hexhausts
    rw [hreaches.unique (reaches_end (hexhausts.atEnd ▸ h))]
    exact hexhausts.ofText_wraps
  have hexact : ¬ Exhausts source offset → (ofText before).line.toNat = 1 + before.count '\n' ∧
      (ofText before).column.toNat = 1 + (lastLine before).length := fun hnot =>
    ((fits_or_exhausts hreaches h).resolve_right hnot).toNat_ofText
  have hpositive : (ofText before).line.toNat = 1 + before.count '\n' ∧
      (ofText before).column.toNat = 1 + (lastLine before).length →
      ¬ ((ofText before).line = 0 ∨ (ofText before).column = 0) := by
    rintro ⟨hline, hcolumn⟩ (hzero | hzero)
    · rw [hzero, UInt32.toNat_zero] at hline
      omega
    · rw [hzero, UInt32.toNat_zero] at hcolumn
      omega
  rw [hposition]
  refine ⟨before, hreaches, ⟨hexact, fun hnumbers => mt hwraps (hpositive hnumbers)⟩, hwraps, ?_⟩
  intro hzero
  by_contra hnot
  exact hpositive (hexact hnot) hzero

theorem ofOffset_pastEnd :
    (ofOffset twoLines 0xFFFFFFFF).line.toNat = 2 ∧
      (ofOffset twoLines 0xFFFFFFFF).column.toNat = 3 := by
  have hsize : octets twoLines ≤ SourceFile.sizeLimit := by decide
  obtain ⟨before, hreaches, hexact, -⟩ := ofOffset_exact hsize 0xFFFFFFFF
  obtain rfl := hreaches.unique (reaches_end (by decide))
  have hshort : ¬ Exhausts twoLines 0xFFFFFFFF := fun hfull => absurd hfull.full (by decide)
  exact hexact.mp hshort

/-- A line that is the whole of a source of the greatest size ends in column zero. -/
theorem column_exhausted :
    octets (List.replicate SourceFile.sizeLimit 'a') ≤ SourceFile.sizeLimit ∧
      1 + (lastLine (List.replicate SourceFile.sizeLimit 'a')).length = UInt32.size ∧
      ofOffset (List.replicate SourceFile.sizeLimit 'a') 0xFFFFFFFF = ⟨1, 0⟩ := by
  have hsize : octets (List.replicate SourceFile.sizeLimit 'a') ≤ SourceFile.sizeLimit := by
    rw [octets_replicate]
    exact Nat.le_of_eq (Nat.mul_one _)
  have hnone : '\n' ∉ List.replicate SourceFile.sizeLimit 'a' :=
    fun h => absurd (List.eq_of_mem_replicate h) (by decide)
  have hline : lastLine (List.replicate SourceFile.sizeLimit 'a') =
      List.replicate SourceFile.sizeLimit 'a' := lastLine_append hnone []
  have hend : Reaches (List.replicate SourceFile.sizeLimit 'a') (0xFFFFFFFF : UInt32).toNat
      (List.replicate SourceFile.sizeLimit 'a') := reaches_end hsize
  refine ⟨hsize, ?_, ?_⟩
  · rw [hline, List.length_replicate]
    rfl
  · rw [hend.ofOffset_eq, ofText, hline, List.count_eq_zero.mpr hnone, List.length_replicate]
    rfl

end NamingLint.Position
