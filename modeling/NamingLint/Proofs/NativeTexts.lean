import Mathlib.Algebra.Group.Nat.Defs
import NamingLint.Proofs.Utf8Text
import NamingLint.Text.Native

/-!
Octets and the characters shown of them. A text of characters is the only one that stands for its
octets, and where octets stand for a text it is what is shown. An octet below 0x80 is shown as its
character whatever stands on either side of it, so what is shown can be cut there. Two texts that
are not UTF-8 may well be shown alike.
-/

namespace NamingLint

namespace Text.Utf8

namespace Sequence

/-- The sequence as if it began at another place, which only a report of a failure tells. -/
def placed (s : Sequence) (index : Nat) : Sequence := { s with start := index }

theorem open?_placed (index : Nat) (octet : UInt8) :
    open? index octet = (open? 0 octet).map (placed · index) := by
  simp only [open?]
  repeat' split
  all_goals rfl

/-- An open sequence takes no octet below 0x80, and what it comes to is no such scalar. -/
structure Open (s : Sequence) : Prop where
  least : 0x80 ≤ s.least.toNat
  missing : 0 < s.missing
  scalar : 0x80 ≤ (s.scalar * 64 + (s.least.toNat - 0x80)) * 64 ^ (s.missing - 1)

theorem Open.not_accepts {s : Sequence} (h : s.Open) {octet : UInt8}
    (hoctet : octet.toNat < 0x80) : s.accepts octet = false := by
  have hleast := h.least
  rw [Bool.eq_false_iff, ne_eq, accepts_iff]
  omega

theorem open_of_open? {index : Nat} {octet : UInt8} {s : Sequence}
    (h : open? index octet = some s) : s.Open := by
  simp only [open?, UInt8.lt_iff_toNat_lt, ← UInt8.toNat_inj] at h
  repeat' split at h
  all_goals cases h
  all_goals constructor <;> simp at * <;> omega

theorem Open.push {s : Sequence} (h : s.Open) {octet : UInt8} (hoctet : s.accepts octet = true) :
    if (s.push octet).missing = 0 then 0x80 ≤ (s.push octet).scalar else (s.push octet).Open := by
  obtain ⟨hleast, hmissing, hscalar⟩ := h
  obtain ⟨hlow, -⟩ := (s.accepts_iff octet).mp hoctet
  -- The octet is at least the least one, so the bound passes to the scalar that is read so far.
  have hread : s.scalar * 64 + (s.least.toNat - 0x80) ≤ s.scalar * 64 + (octet.toNat - 0x80) := by
    omega
  have hbound := Nat.le_trans hscalar (Nat.mul_le_mul_right (64 ^ (s.missing - 1)) hread)
  split
  · next hlast =>
      have hone : s.missing - 1 = 0 := hlast
      simpa [hone, Sequence.push] using hbound
  · next hmore =>
      have hmore : s.missing - 1 ≠ 0 := hmore
      refine ⟨Nat.le_refl _, Nat.pos_of_ne_zero hmore, ?_⟩
      have hpow : 64 * 64 ^ (s.missing - 1 - 1) = 64 ^ (s.missing - 1) := by
        rw [Nat.mul_comm, ← Nat.pow_succ, Nat.succ_eq_add_one,
          Nat.sub_add_cancel (Nat.pos_of_ne_zero hmore)]
      have hnone : (128 : UInt8).toNat - 0x80 = 0 := rfl
      simpa [Sequence.push, hnone, Nat.mul_assoc, hpow] using hbound

end Sequence

theorem begin_ascii {octet : UInt8} (h : octet.toNat < 0x80) :
    begin octet = ([Char.ofNat octet.toNat], none) := by
  simp [begin, UInt8.lt_iff_toNat_lt, h]

theorem begin_other {octet : UInt8} (h : ¬ octet.toNat < 0x80) :
    begin octet = ([replacement], none) ∨ ∃ s, begin octet = ([], some s) ∧ s.Open := by
  have hlead : ¬ octet < 0x80 := h
  simp only [begin, hlead, if_false]
  cases hopen : Sequence.open? 0 octet with
  | none => exact .inl rfl
  | some s => exact .inr ⟨s, rfl, Sequence.open_of_open? hopen⟩

theorem begin_open (octet : UInt8) : ∀ s ∈ (begin octet).2, s.Open := by
  intro s hs
  by_cases hascii : octet.toNat < 0x80
  · simp [begin_ascii hascii] at hs
  · rcases begin_other hascii with h | ⟨t, h, ht⟩
    · simp [h] at hs
    · obtain rfl : t = s := by simpa [h] using hs
      exact ht

theorem resume_open {s : Sequence} (h : s.Open) (octet : UInt8) :
    ∀ t ∈ (s.resume octet).2, t.Open := by
  intro t ht
  unfold Sequence.resume at ht
  split at ht
  · next haccepts =>
      have hpush := h.push haccepts
      simp only at ht
      split at ht
      · cases ht
      · next hmore =>
          rw [if_neg hmore] at hpush
          exact Option.mem_some.mp ht ▸ hpush
  · exact begin_open octet t ht

/-- A text that is read without a fault is what is shown, and a fault is shown. -/
theorem readLossy_of_scan (octets : List UInt8) (index start : Nat) (read : List Char)
    (state : Option Sequence) :
    match scan octets index (state.map (Sequence.placed · start)) read with
    | .ok text => text = read.reverse ++ readLossy state octets
    | .error _ => replacement ∈ readLossy state octets := by
  induction octets generalizing index start read state with
  | nil =>
      cases state with
      | none => simp [scan, readLossy]
      | some s => simp [scan, readLossy]
  | cons octet rest ih =>
      cases state with
      | none =>
          simp only [Option.map_none, scan]
          by_cases hascii : octet < 0x80
          · have hrest := ih (index + 1) 0 (Char.ofNat octet.toNat :: read) none
            rw [Option.map_none] at hrest
            simp only [hascii, ↓reduceIte, readLossy, begin]
            split at hrest <;> simp_all
          · rw [if_neg hascii, Sequence.open?_placed]
            cases hopen : Sequence.open? 0 octet with
            | none => simp [readLossy, begin, hascii, hopen]
            | some s =>
                have hrest := ih (index + 1) index read (some s)
                simp only [Option.map_some, readLossy, begin, hascii, hopen, ↓reduceIte] at hrest ⊢
                exact hrest
      | some s =>
          have haccepts : (s.placed start).accepts octet = s.accepts octet := rfl
          have hpush : (s.placed start).push octet = (s.push octet).placed start := rfl
          have hmissing : ((s.push octet).placed start).missing = (s.push octet).missing := rfl
          have hscalar : ((s.push octet).placed start).scalar = (s.push octet).scalar := rfl
          simp only [Option.map_some, scan, haccepts, hpush, hmissing, hscalar, readLossy,
            Sequence.resume]
          by_cases hcontinues : s.accepts octet
          · by_cases hlast : (s.push octet).missing = 0
            · have hrest := ih (index + 1) 0 (Char.ofNat (s.push octet).scalar :: read) none
              rw [Option.map_none] at hrest
              simp only [hcontinues, hlast, ↓reduceIte]
              split at hrest <;> simp_all
            · have hrest := ih (index + 1) start read (some (s.push octet))
              simp only [Option.map_some, hcontinues, hlast, ↓reduceIte] at hrest ⊢
              exact hrest
          · simp [hcontinues]

theorem decodeLossy_of_decode {octets : List UInt8} {text : List Char}
    (h : decode octets = .ok text) : decodeLossy octets = text := by
  have hread := readLossy_of_scan octets 0 0 [] none
  rw [Option.map_none, show scan octets 0 none [] = .ok text from h] at hread
  exact hread.symm

theorem replacement_mem_decodeLossy {octets : List UInt8} {failure : Failure}
    (h : decode octets = .error failure) : replacement ∈ decodeLossy octets := by
  have hread := readLossy_of_scan octets 0 0 [] none
  rw [Option.map_none, show scan octets 0 none [] = .error failure from h] at hread
  exact hread

/-- An octet below 0x80 ends whatever is open and is shown as its character. -/
theorem readLossy_ascii {octet : UInt8} (hoctet : octet.toNat < 0x80) (before after : List UInt8)
    {state : Option Sequence} (hstate : ∀ s ∈ state, s.Open) :
    readLossy state (before ++ octet :: after) =
      readLossy state before ++ Char.ofNat octet.toNat :: readLossy none after := by
  induction before generalizing state with
  | nil =>
      cases state with
      | none => simp [readLossy, begin_ascii hoctet]
      | some s =>
          simp [readLossy, Sequence.resume, (hstate s rfl).not_accepts hoctet, begin_ascii hoctet]
  | cons first before ih =>
      cases state with
      | none =>
          simp only [List.cons_append, readLossy, ih (begin_open first), List.append_assoc]
      | some s =>
          simp only [List.cons_append, readLossy, ih (resume_open (hstate s rfl) first),
            List.append_assoc]

theorem toNat_ofNat (n : Nat) : (Char.ofNat n).toNat = if n.isValidChar then n else 0 := by
  by_cases h : n.isValidChar
  · rw [Char.ofNat, dif_pos h, if_pos h]
    rfl
  · rw [Char.ofNat, dif_neg h, if_neg h]
    rfl

theorem toNat_ofNat_ascii {octet : UInt8} (hoctet : octet.toNat < 0x80) :
    (Char.ofNat octet.toNat).toNat = octet.toNat := by
  have hvalid : octet.toNat.isValidChar := .inl (by omega)
  rw [toNat_ofNat, if_pos hvalid]

/-- A scalar below 0x80 comes from no longer sequence, not even from one that is no scalar. -/
theorem ofNat_ne_ascii {scalar : Nat} (hscalar : 0x80 ≤ scalar) {octet : UInt8}
    (hoctet : octet.toNat < 0x80) (hzero : octet.toNat ≠ 0) :
    Char.ofNat scalar ≠ Char.ofNat octet.toNat := by
  intro h
  have hnat := congrArg Char.toNat h
  rw [toNat_ofNat_ascii hoctet, toNat_ofNat] at hnat
  split at hnat <;> omega

theorem replacement_ne_ascii {octet : UInt8} (hoctet : octet.toNat < 0x80) :
    replacement ≠ Char.ofNat octet.toNat := by
  intro h
  have hnat := congrArg Char.toNat h
  rw [toNat_ofNat_ascii hoctet, show replacement.toNat = 0xFFFD from rfl] at hnat
  omega

section

variable {octet : UInt8} (hoctet : octet.toNat < 0x80) (hzero : octet.toNat ≠ 0)

include hoctet

theorem eq_of_mem_begin {first : UInt8} (h : Char.ofNat octet.toNat ∈ (begin first).1) :
    octet = first := by
  by_cases hascii : first.toNat < 0x80
  · have hsame : Char.ofNat octet.toNat = Char.ofNat first.toNat := by
      simpa [begin_ascii hascii] using h
    have hnat := congrArg Char.toNat hsame
    rw [toNat_ofNat_ascii hoctet, toNat_ofNat_ascii hascii] at hnat
    exact UInt8.toNat_inj.mp hnat
  · rcases begin_other hascii with hbegin | ⟨s, hbegin, -⟩
    · rw [hbegin, List.mem_singleton] at h
      exact absurd h.symm (replacement_ne_ascii hoctet)
    · simp [hbegin] at h

include hzero

theorem eq_of_mem_resume {s : Sequence} (hs : s.Open) {first : UInt8}
    (h : Char.ofNat octet.toNat ∈ (s.resume first).1) : octet = first := by
  unfold Sequence.resume at h
  split at h
  · next haccepts =>
      have hpush := hs.push haccepts
      simp only at h
      split at h
      · next hlast =>
          rw [if_pos hlast] at hpush
          exact absurd (List.mem_singleton.mp h).symm (ofNat_ne_ascii hpush hoctet hzero)
      · cases h
  · rcases List.mem_cons.mp h with h | h
    · exact absurd h.symm (replacement_ne_ascii hoctet)
    · exact eq_of_mem_begin hoctet h

/-- A character below 0x80 is shown for its octet only. -/
theorem mem_of_mem_readLossy {octets : List UInt8} {state : Option Sequence}
    (hstate : ∀ s ∈ state, s.Open) (h : Char.ofNat octet.toNat ∈ readLossy state octets) :
    octet ∈ octets := by
  induction octets generalizing state with
  | nil =>
      cases state with
      | none => cases h
      | some s => exact absurd (List.mem_singleton.mp h).symm (replacement_ne_ascii hoctet)
  | cons first rest ih =>
      cases state with
      | none =>
          rcases List.mem_append.mp h with h | h
          · exact eq_of_mem_begin hoctet h ▸ List.mem_cons_self
          · exact List.mem_cons_of_mem _ (ih (begin_open first) h)
      | some s =>
          have hs := hstate s rfl
          rcases List.mem_append.mp h with h | h
          · exact eq_of_mem_resume hoctet hzero hs h ▸ List.mem_cons_self
          · exact List.mem_cons_of_mem _ (ih (resume_open hs first) h)

end

theorem mem_utf8EncodeChar_ascii {octet : UInt8} (hoctet : octet.toNat < 0x80) {c : Char} :
    octet ∈ String.utf8EncodeChar c ↔ c = Char.ofNat octet.toNat := by
  constructor
  · intro h
    have hwritten := written_encode c
    generalize String.utf8EncodeChar c = octets at h hwritten
    cases hwritten with
    | one ha hv =>
        rw [List.mem_singleton.mp h, ← hv, Char.ofNat_toNat]
    | two _ _ | three _ _ _ _ _ | four _ _ _ _ _ _ =>
        -- The other shapes have no octet below 0x80.
        simp only [List.mem_cons, List.not_mem_nil, or_false] at h
        rcases h with rfl | rfl | rfl | rfl <;> omega
  · rintro rfl
    have hwritten : Written octet.toNat [octet] := .one hoctet rfl
    rw [hwritten.encode_ofNat]
    exact List.mem_singleton_self octet

end Text.Utf8

namespace NativeText

theorem text?_eq_some {text : NativeText} {chars : String} :
    text.text? = some chars ↔ text = ofText chars := by
  obtain ⟨octets⟩ := text
  have hdecode : Text.Utf8.decode octets = .ok chars.toList ↔ _ := Text.Utf8.decode_eq_ok_iff
  unfold text? ofText
  rw [NativeText.mk.injEq, ← hdecode]
  cases Text.Utf8.decode octets with
  | error failure => simp
  | ok read => simp [← String.toList_inj]

@[simp] theorem text?_ofText (chars : String) : (ofText chars).text? = some chars :=
  text?_eq_some.mpr rfl

@[simp] theorem ofText_inj {a b : String} : ofText a = ofText b ↔ a = b := by
  refine ⟨fun h => ?_, congrArg ofText⟩
  simpa [h, eq_comm] using text?_ofText a

@[simp] theorem octets_append (a b : NativeText) : (a ++ b).octets = a.octets ++ b.octets :=
  rfl

theorem append_assoc (a b c : NativeText) : a ++ b ++ c = a ++ (b ++ c) :=
  congrArg NativeText.mk (List.append_assoc ..)

theorem ofText_append (a b : String) : ofText (a ++ b) = ofText a ++ ofText b := by
  have hoctets : (a ++ b).toList.flatMap String.utf8EncodeChar =
      (ofText a).octets ++ (ofText b).octets := by simp [ofText]
  exact congrArg NativeText.mk hoctets

theorem lossy_of_text? {text : NativeText} {chars : String} (h : text.text? = some chars) :
    text.lossy = chars := by
  unfold text? at h
  split at h
  · next read hdecode =>
      rw [lossy, Text.Utf8.decodeLossy_of_decode hdecode]
      exact Option.some.inj h
  · cases h

@[simp] theorem lossy_ofText (chars : String) : (ofText chars).lossy = chars :=
  lossy_of_text? (text?_ofText chars)

theorem mem_ofText_ascii {octet : UInt8} (hoctet : octet.toNat < 0x80) (chars : String) :
    octet ∈ (ofText chars).octets ↔ Char.ofNat octet.toNat ∈ chars.toList := by
  simp [ofText, Text.Utf8.mem_utf8EncodeChar_ascii hoctet]

/-- What is shown can be cut at an octet below 0x80. -/
theorem lossy_ascii {octet : UInt8} (hoctet : octet.toNat < 0x80) (before after : List UInt8) :
    lossy ⟨before ++ octet :: after⟩ =
      lossy ⟨before⟩ ++ String.singleton (Char.ofNat octet.toNat) ++ lossy ⟨after⟩ := by
  simp only [lossy, Text.Utf8.decodeLossy]
  rw [Text.Utf8.readLossy_ascii hoctet before after (by simp), ← String.toList_inj]
  simp

theorem mem_lossy_ascii {octet : UInt8} (hoctet : octet.toNat < 0x80) (hzero : octet.toNat ≠ 0)
    (text : NativeText) :
    Char.ofNat octet.toNat ∈ text.lossy.toList ↔ octet ∈ text.octets := by
  constructor
  · intro h
    rw [lossy, String.toList_ofList] at h
    exact Text.Utf8.mem_of_mem_readLossy hoctet hzero (by simp) h
  · intro h
    obtain ⟨octets⟩ := text
    obtain ⟨before, after, rfl⟩ := List.append_of_mem h
    simp [lossy_ascii hoctet]

theorem replacement_mem_lossy {text : NativeText} (h : text.text? = none) :
    Text.Utf8.replacement ∈ text.lossy.toList := by
  unfold text? at h
  split at h
  · cases h
  · next failure hdecode =>
      rw [lossy, String.toList_ofList]
      exact Text.Utf8.replacement_mem_decodeLossy hdecode

end NativeText
end NamingLint
