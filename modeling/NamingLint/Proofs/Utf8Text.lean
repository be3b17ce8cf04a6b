import NamingLint.Text.Utf8

/-!
What the UTF-8 machine accepts. The octets of a character form one of four shapes with bounds on
the first two octets; these shapes are exactly the encodings of characters, and the machine reads
exactly concatenations of them. So it accepts an octet list when the list encodes a text, and
returns that text.
-/

namespace NamingLint.Text.Utf8

/-- The octets by which a scalar is written, as a table of ranges. -/
inductive Written (v : Nat) : List UInt8 → Prop where
  | one {a : UInt8} (ha : a.toNat < 0x80) (hv : v = a.toNat) : Written v [a]
  | two {a b : UInt8} (ha : 0xC2 ≤ a.toNat ∧ a.toNat < 0xE0)
      (hb : 0x80 ≤ b.toNat ∧ b.toNat ≤ 0xBF)
      (hv : v = (a.toNat - 0xC0) * 64 + (b.toNat - 0x80)) : Written v [a, b]
  | three {a b c : UInt8} (ha : 0xE0 ≤ a.toNat ∧ a.toNat < 0xF0)
      (hb : 0x80 ≤ b.toNat ∧ b.toNat ≤ 0xBF) (overlong : a.toNat = 0xE0 → 0xA0 ≤ b.toNat)
      (surrogate : a.toNat = 0xED → b.toNat ≤ 0x9F) (hc : 0x80 ≤ c.toNat ∧ c.toNat ≤ 0xBF)
      (hv : v = ((a.toNat - 0xE0) * 64 + (b.toNat - 0x80)) * 64 + (c.toNat - 0x80)) :
      Written v [a, b, c]
  | four {a b c d : UInt8} (ha : 0xF0 ≤ a.toNat ∧ a.toNat ≤ 0xF4)
      (hb : 0x80 ≤ b.toNat ∧ b.toNat ≤ 0xBF) (overlong : a.toNat = 0xF0 → 0x90 ≤ b.toNat)
      (large : a.toNat = 0xF4 → b.toNat ≤ 0x8F) (hc : 0x80 ≤ c.toNat ∧ c.toNat ≤ 0xBF)
      (hd : 0x80 ≤ d.toNat ∧ d.toNat ≤ 0xBF)
      (hv : v = (((a.toNat - 0xF0) * 64 + (b.toNat - 0x80)) * 64 + (c.toNat - 0x80)) * 64 +
        (d.toNat - 0x80)) : Written v [a, b, c, d]

theorem octet_eq {n : Nat} (a : UInt8) (h : n = a.toNat) : UInt8.ofNat n = a := by
  subst h
  exact UInt8.ofNat_toNat

theorem Written.encode {c : Char} {octets : List UInt8} (h : Written c.toNat octets) :
    String.utf8EncodeChar c = octets := by
  unfold String.utf8EncodeChar
  have hv : c.val.toNat = c.toNat := rfl
  simp only [hv]
  generalize c.toNat = v at h
  cases h with
  | @one a ha hv =>
      rw [if_pos (by omega), octet_eq a (by omega)]
  | @two a b ha hb hv =>
      rw [if_neg (by omega), if_pos (by omega), octet_eq a (by omega), octet_eq b (by omega)]
  | @three a b c ha hb overlong surrogate hc hv =>
      rw [if_neg (by omega), if_neg (by omega), if_pos (by omega), octet_eq a (by omega),
        octet_eq b (by omega), octet_eq c (by omega)]
  | @four a b c d ha hb overlong large hc hd hv =>
      rw [if_neg (by omega), if_neg (by omega), if_neg (by omega), octet_eq a (by omega),
        octet_eq b (by omega), octet_eq c (by omega), octet_eq d (by omega)]

theorem written_encode (c : Char) : Written c.toNat (String.utf8EncodeChar c) := by
  have hrange : c.toNat < 0xD800 ∨ 0xDFFF < c.toNat ∧ c.toNat < 0x110000 := c.valid
  unfold String.utf8EncodeChar
  have hv : c.val.toNat = c.toNat := rfl
  simp only [hv]
  generalize c.toNat = v at hrange
  have octet : ∀ {n : Nat}, n < 256 → (UInt8.ofNat n).toNat = n := UInt8.toNat_ofNat_of_lt'
  split
  · have ha := octet (n := v) (by omega)
    constructor <;> omega
  split
  · have ha := octet (n := v / 64 % 0x20 + 0xc0) (by omega)
    have hb := octet (n := v % 0x40 + 0x80) (by omega)
    constructor <;> omega
  split
  · have ha := octet (n := v / 4096 % 0x10 + 0xe0) (by omega)
    have hb := octet (n := v / 64 % 0x40 + 0x80) (by omega)
    have hc := octet (n := v % 0x40 + 0x80) (by omega)
    constructor <;> omega
  · have ha := octet (n := v / 262144 % 0x08 + 0xf0) (by omega)
    have hb := octet (n := v / 4096 % 0x40 + 0x80) (by omega)
    have hc := octet (n := v / 64 % 0x40 + 0x80) (by omega)
    have hd := octet (n := v % 0x40 + 0x80) (by omega)
    constructor <;> omega

namespace Sequence

/-- What the first octet of a longer shape opens. The range of the second octet is narrower after
four of the leads. -/
theorem open?_eq (index : Nat) (a : UInt8) :
    open? index a =
      if a.toNat < 0xC2 then none
      else if a.toNat < 0xE0 then some ⟨index, 1, 1, 0x80, 0xBF, a.toNat - 0xC0⟩
      else if a.toNat < 0xF0 then
        some ⟨index, 1, 2, if a.toNat = 0xE0 then 0xA0 else 0x80,
          if a.toNat = 0xED then 0x9F else 0xBF, a.toNat - 0xE0⟩
      else if a.toNat ≤ 0xF4 then
        some ⟨index, 1, 3, if a.toNat = 0xF0 then 0x90 else 0x80,
          if a.toNat = 0xF4 then 0x8F else 0xBF, a.toNat - 0xF0⟩
      else none := by
  simp only [open?, UInt8.lt_iff_toNat_lt, ← UInt8.toNat_inj]
  grind

theorem accepts_iff (s : Sequence) (b : UInt8) :
    s.accepts b = true ↔ s.least.toNat ≤ b.toNat ∧ b.toNat ≤ s.greatest.toNat := by
  simp [accepts, UInt8.le_iff_toNat_le]

/-- The range of a second octet, narrowed from below after one lead and from above after another. -/
theorem second_range {a b least greatest : UInt8} {low high : Nat} (hleast : 0x80 ≤ least.toNat)
    (hgreatest : greatest.toNat ≤ 0xBF) :
    (if a.toNat = low then least else 0x80).toNat ≤ b.toNat ∧
        b.toNat ≤ (if a.toNat = high then greatest else 0xBF).toNat ↔
      (0x80 ≤ b.toNat ∧ b.toNat ≤ 0xBF) ∧ (a.toNat = low → least.toNat ≤ b.toNat) ∧
        (a.toNat = high → b.toNat ≤ greatest.toNat) := by
  have h80 : (0x80 : UInt8).toNat = 0x80 := rfl
  have hbf : (0xBF : UInt8).toNat = 0xBF := rfl
  split <;> split <;> omega

end Sequence

section

variable {s : Sequence} {a b : UInt8} {rest : List UInt8} {index : Nat} {read : List Char}

theorem scan_ascii (ha : a.toNat < 0x80) :
    scan (a :: rest) index none read =
      scan rest (index + 1) none (Char.ofNat a.toNat :: read) := by
  simp [scan, UInt8.lt_iff_toNat_lt, ha]

theorem scan_open (ha : 0x80 ≤ a.toNat) (hopen : Sequence.open? index a = some s) :
    scan (a :: rest) index none read = scan rest (index + 1) (some s) read := by
  simp [scan, UInt8.lt_iff_toNat_lt, Nat.not_lt.mpr ha, hopen]

theorem scan_more (hb : s.least.toNat ≤ b.toNat ∧ b.toNat ≤ s.greatest.toNat)
    (hmissing : 1 < s.missing) :
    scan (b :: rest) index (some s) read = scan rest (index + 1) (some (s.push b)) read := by
  have hpush : (s.push b).missing ≠ 0 := by simp only [Sequence.push]; omega
  simp [scan, (s.accepts_iff b).mpr hb, hpush]

theorem scan_last (hb : s.least.toNat ≤ b.toNat ∧ b.toNat ≤ s.greatest.toNat)
    (hmissing : s.missing = 1) :
    scan (b :: rest) index (some s) read =
      scan rest (index + 1) none (Char.ofNat (s.scalar * 64 + (b.toNat - 0x80)) :: read) := by
  have hpush : (s.push b).missing = 0 := by simp [Sequence.push, hmissing]
  simp only [scan, (s.accepts_iff b).mpr hb, hpush, ↓reduceIte]
  rfl

/-- Within a sequence the machine goes on only with an octet of the range. -/
theorem scan_some_ok {octets : List UInt8} {text : List Char}
    (h : scan octets index (some s) read = .ok text) :
    ∃ b rest, octets = b :: rest ∧ s.least.toNat ≤ b.toNat ∧ b.toNat ≤ s.greatest.toNat := by
  cases octets with
  | nil => cases h
  | cons b rest =>
      by_cases hb : s.accepts b
      · exact ⟨b, rest, rfl, (s.accepts_iff b).mp hb⟩
      · simp [scan, hb] at h

end

theorem scan_written {v : Nat} {octets : List UInt8} (h : Written v octets) (rest : List UInt8)
    (index : Nat) (read : List Char) :
    scan (octets ++ rest) index none read =
      scan rest (index + octets.length) none (Char.ofNat v :: read) := by
  cases h with
  | @one a ha hv =>
      simp only [List.cons_append, List.nil_append, List.length_cons, List.length_nil]
      rw [scan_ascii ha, hv]
  | @two a b ha hb hv =>
      have hopen := Sequence.open?_eq index a
      rw [if_neg (by omega), if_pos ha.2] at hopen
      simp only [List.cons_append, List.nil_append, List.length_cons, List.length_nil]
      rw [scan_open (by omega) hopen, scan_last, hv]
      · exact hb
      · rfl
  | @three a b c ha hb overlong surrogate hc hv =>
      have hopen := Sequence.open?_eq index a
      rw [if_neg (by omega), if_neg (by omega), if_pos ha.2] at hopen
      simp only [List.cons_append, List.nil_append, List.length_cons, List.length_nil]
      rw [scan_open (by omega) hopen, scan_more, scan_last, hv]
      · rfl
      · exact hc
      · rfl
      · exact (Sequence.second_range (by decide) (by decide)).mpr ⟨hb, overlong, surrogate⟩
      · exact Nat.lt_succ_self 1
  | @four a b c d ha hb overlong large hc hd hv =>
      have hopen := Sequence.open?_eq index a
      rw [if_neg (by omega), if_neg (by omega), if_neg (by omega), if_pos ha.2] at hopen
      simp only [List.cons_append, List.nil_append, List.length_cons, List.length_nil]
      rw [scan_open (by omega) hopen, scan_more, scan_more, scan_last, hv]
      · rfl
      · exact hd
      · rfl
      · exact hc
      · exact Nat.lt_succ_self 1
      · exact (Sequence.second_range (by decide) (by decide)).mpr ⟨hb, overlong, large⟩
      · exact Nat.lt_add_of_pos_left Nat.two_pos

theorem exists_written_of_scan {a : UInt8} {octets : List UInt8} {index : Nat}
    {read text : List Char} (h : scan (a :: octets) index none read = .ok text) :
    ∃ v taken rest, a :: octets = taken ++ rest ∧ Written v taken := by
  by_cases hascii : a.toNat < 0x80
  · exact ⟨_, [a], octets, rfl, .one hascii rfl⟩
  have hopen := Sequence.open?_eq index a
  split at hopen
  · simp [scan, UInt8.lt_iff_toNat_lt, hascii, hopen] at h
  split at hopen
  · rw [scan_open (by omega) hopen] at h
    obtain ⟨b, rest, rfl, hb⟩ := scan_some_ok h
    exact ⟨_, [a, b], rest, rfl, .two ⟨by omega, by omega⟩ hb rfl⟩
  split at hopen
  · rw [scan_open (by omega) hopen] at h
    obtain ⟨b, rest, rfl, hb⟩ := scan_some_ok h
    rw [scan_more hb (Nat.lt_succ_self 1)] at h
    obtain ⟨c, rest, rfl, hc⟩ := scan_some_ok h
    obtain ⟨hb, overlong, surrogate⟩ := (Sequence.second_range (by decide) (by decide)).mp hb
    exact ⟨_, [a, b, c], rest, rfl, .three ⟨by omega, by omega⟩ hb overlong surrogate hc rfl⟩
  split at hopen
  · rw [scan_open (by omega) hopen] at h
    obtain ⟨b, rest, rfl, hb⟩ := scan_some_ok h
    rw [scan_more hb (Nat.lt_add_of_pos_left Nat.two_pos)] at h
    obtain ⟨c, rest, rfl, hc⟩ := scan_some_ok h
    rw [scan_more hc (Nat.lt_succ_self 1)] at h
    obtain ⟨d, rest, rfl, hd⟩ := scan_some_ok h
    obtain ⟨hb, overlong, large⟩ := (Sequence.second_range (by decide) (by decide)).mp hb
    exact ⟨_, [a, b, c, d], rest, rfl, .four ⟨by omega, by omega⟩ hb overlong large hc hd rfl⟩
  · simp [scan, UInt8.lt_iff_toNat_lt, hascii, hopen] at h

theorem Written.length_pos {v : Nat} {octets : List UInt8} (h : Written v octets) :
    0 < octets.length := by
  cases h <;> exact Nat.zero_lt_succ _

theorem Written.isValidChar {v : Nat} {octets : List UInt8} (h : Written v octets) :
    v.isValidChar := by
  unfold Nat.isValidChar
  cases h <;> omega

/-- What is written is the encoding of a character. -/
theorem Written.encode_ofNat {v : Nat} {octets : List UInt8} (h : Written v octets) :
    String.utf8EncodeChar (Char.ofNat v) = octets := by
  have hv : (Char.ofNat v).toNat = v := by
    rw [Char.ofNat, dif_pos h.isValidChar]
    rfl
  exact Written.encode (hv.symm ▸ h)

theorem scan_eq_ok_iff {octets : List UInt8} {index : Nat} {read text : List Char} :
    scan octets index none read = .ok text ↔
      ∃ added, octets = added.flatMap String.utf8EncodeChar ∧ text = read.reverse ++ added := by
  constructor
  · intro h
    induction hn : octets.length using Nat.strongRecOn generalizing octets index read with
    | ind n ih =>
        cases octets with
        | nil => exact ⟨[], rfl, by simpa [scan, eq_comm] using h⟩
        | cons a octets =>
            -- Reading went on past the first character, so that character can be cut off.
            obtain ⟨v, taken, rest, heq, hwritten⟩ := exists_written_of_scan h
            rw [heq, scan_written hwritten] at h
            have hshorter : rest.length < n := by
              rw [← hn, heq, List.length_append]
              exact Nat.lt_add_of_pos_left hwritten.length_pos
            obtain ⟨added, hrest, htext⟩ := ih _ hshorter h rfl
            refine ⟨Char.ofNat v :: added, ?_, by simpa using htext⟩
            rw [heq, List.flatMap_cons, hwritten.encode_ofNat, hrest]
  · intro h
    obtain ⟨added, rfl, rfl⟩ := h
    induction added generalizing index read with
    | nil => simp [scan]
    | cons c added ih =>
        rw [List.flatMap_cons, scan_written (written_encode c), Char.ofNat_toNat, ih]
        simp

/-- The octets that are read are those of a text, and the text is what is read. -/
theorem decode_eq_ok_iff {octets : List UInt8} {text : List Char} :
    decode octets = .ok text ↔ octets = text.flatMap String.utf8EncodeChar := by
  simp [decode, scan_eq_ok_iff]

end NamingLint.Text.Utf8
