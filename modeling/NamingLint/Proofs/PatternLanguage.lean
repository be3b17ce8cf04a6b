import NamingLint.Text.Pattern

/-!
The language of a pattern, by rules, and the derivative matcher against it. The rules say which
whole texts a pattern describes; nothing here is about search inside a text.
-/

namespace NamingLint.Text.Pattern

inductive Matches : Pattern → List Char → Prop where
  | blank : Matches blank []
  | one {accepts : Char → Bool} {c : Char} (h : accepts c = true) : Matches (one accepts) [c]
  | seq {p q : Pattern} {a b : List Char} (first : Matches p a) (second : Matches q b) :
      Matches (seq p q) (a ++ b)
  | left {p q : Pattern} {a : List Char} (h : Matches p a) : Matches (alt p q) a
  | right {p q : Pattern} {a : List Char} (h : Matches q a) : Matches (alt p q) a
  | done {p : Pattern} : Matches (star p) []
  | more {p : Pattern} {a b : List Char} (first : Matches p a) (rest : Matches (star p) b) :
      Matches (star p) (a ++ b)

@[simp] theorem matches_never (s : List Char) : ¬ Matches never s := nofun

@[simp] theorem matches_blank (s : List Char) : Matches blank s ↔ s = [] :=
  ⟨fun h => by cases h; rfl, fun h => h ▸ .blank⟩

@[simp] theorem matches_one (accepts : Char → Bool) (s : List Char) :
    Matches (one accepts) s ↔ ∃ c, accepts c = true ∧ s = [c] := by
  constructor
  · rintro ⟨⟩
    exact ⟨_, ‹_›, rfl⟩
  · intro h
    obtain ⟨c, h, rfl⟩ := h
    exact .one h

@[simp] theorem matches_alt (p q : Pattern) (s : List Char) :
    Matches (alt p q) s ↔ Matches p s ∨ Matches q s := by
  constructor
  · intro h
    cases h with
    | left h => exact .inl h
    | right h => exact .inr h
  · rintro (h | h)
    · exact .left h
    · exact .right h

theorem matches_seq (p q : Pattern) (s : List Char) :
    Matches (seq p q) s ↔ ∃ a b, s = a ++ b ∧ Matches p a ∧ Matches q b := by
  constructor
  · intro h
    cases h with
    | seq first second => exact ⟨_, _, rfl, first, second⟩
  · intro h
    obtain ⟨a, b, rfl, first, second⟩ := h
    exact .seq first second

/-- A nonempty text of a repetition begins with a nonempty text of its body. -/
theorem matches_star_cons (p : Pattern) (c : Char) (s : List Char) :
    Matches (star p) (c :: s) ↔
      ∃ a b, s = a ++ b ∧ Matches p (c :: a) ∧ Matches (star p) b := by
  constructor
  · generalize hq : star p = q, hw : c :: s = w
    intro h
    induction h with
    | blank | one _ | seq _ _ | left _ | right _ => cases hq
    | done => cases hw
    | @more p' a b first rest _ ih =>
        cases hq
        cases a with
        | nil => exact ih rfl hw
        | cons d a =>
            obtain ⟨rfl, rfl⟩ := List.cons.inj hw
            exact ⟨a, b, rfl, first, rest⟩
  · intro h
    obtain ⟨a, b, rfl, first, rest⟩ := h
    exact .more first rest

theorem matches_seq' (p q : Pattern) (s : List Char) :
    Matches (seq' p q) s ↔ Matches (seq p q) s := by
  cases p with
  | never => simp [seq', matches_seq]
  | blank =>
      rw [seq', matches_seq]
      constructor
      · intro h
        exact ⟨[], s, rfl, .blank, h⟩
      · intro h
        obtain ⟨a, b, rfl, first, second⟩ := h
        cases first
        exact second
  | one _ | seq _ _ | alt _ _ | star _ => rfl

theorem matches_alt' (p q : Pattern) (s : List Char) :
    Matches (alt' p q) s ↔ Matches (alt p q) s := by
  cases p <;> cases q <;> simp [alt']

theorem nullable_iff (p : Pattern) : p.nullable = true ↔ Matches p [] := by
  induction p with
  | never | blank | one _ => simp [nullable]
  | seq p q ihp ihq =>
      simp only [nullable, Bool.and_eq_true, ihp, ihq, matches_seq]
      constructor
      · intro h
        obtain ⟨first, second⟩ := h
        exact ⟨[], [], rfl, first, second⟩
      · intro h
        obtain ⟨a, b, h, first, second⟩ := h
        obtain ⟨rfl, rfl⟩ := List.append_eq_nil_iff.mp h.symm
        exact ⟨first, second⟩
  | alt p q ihp ihq => simp [nullable, ihp, ihq]
  | star p _ => simp [nullable, Matches.done]

/-- A sequence takes its first character from its first part or, where that part may be empty,
from its second. -/
theorem matches_seq_cons (p q : Pattern) (c : Char) (s : List Char) :
    Matches (seq p q) (c :: s) ↔
      (∃ a b, s = a ++ b ∧ Matches p (c :: a) ∧ Matches q b) ∨
        (Matches p [] ∧ Matches q (c :: s)) := by
  rw [matches_seq]
  constructor
  · intro h
    obtain ⟨a, b, h, first, second⟩ := h
    cases a with
    | nil => exact .inr ⟨first, by simpa [h] using second⟩
    | cons d a =>
        obtain ⟨rfl, rfl⟩ := List.cons.inj h
        exact .inl ⟨a, b, rfl, first, second⟩
  · rintro (⟨a, b, rfl, first, second⟩ | ⟨first, second⟩)
    · exact ⟨c :: a, b, rfl, first, second⟩
    · exact ⟨[], c :: s, rfl, first, second⟩

theorem matches_derive (c : Char) (p : Pattern) (s : List Char) :
    Matches (p.derive c) s ↔ Matches p (c :: s) := by
  induction p generalizing s with
  | never | blank => simp [derive]
  | one accepts =>
      by_cases h : accepts c = true
      · simp only [derive, h, ↓reduceIte, matches_blank, matches_one]
        constructor
        · rintro rfl
          exact ⟨c, h, rfl⟩
        · intro h
          obtain ⟨d, _, heq⟩ := h
          exact (List.cons.inj heq).2
      · simp only [derive, h, matches_one, Bool.false_eq_true, ↓reduceIte, matches_never, false_iff]
        intro h
        obtain ⟨d, hd, heq⟩ := h
        exact h ((List.cons.inj heq).1 ▸ hd)
  | seq p q ihp ihq =>
      have first (s) : Matches (seq' (p.derive c) q) s ↔
          ∃ a b, s = a ++ b ∧ Matches p (c :: a) ∧ Matches q b := by
        simp only [matches_seq', matches_seq, ihp]
      rw [matches_seq_cons, ← nullable_iff]
      by_cases h : p.nullable = true
      · simp only [derive, h, ↓reduceIte, matches_alt', matches_alt, first, ihq, true_and]
      · simp only [derive, h, first, false_and, or_false, Bool.false_eq_true, ↓reduceIte]
  | alt p q ihp ihq => simp only [derive, matches_alt', matches_alt, ihp, ihq]
  | star p ih => simp only [derive, matches_seq', matches_seq, ih, matches_star_cons]

theorem accepts_iff_matches (p : Pattern) (s : List Char) :
    p.accepts s = true ↔ Matches p s := by
  induction s generalizing p with
  | nil => exact nullable_iff p
  | cons c s ih => rw [accepts, ih, matches_derive]

/-- Repeated characters of a class are the texts over that class. -/
theorem matches_star_one (accepts : Char → Bool) (s : List Char) :
    Matches (star (one accepts)) s ↔ ∀ c ∈ s, accepts c = true := by
  induction s with
  | nil => simp [Matches.done]
  | cons c s ih =>
      rw [matches_star_cons, List.forall_mem_cons, ← ih]
      constructor
      · intro h
        obtain ⟨a, b, rfl, first, rest⟩ := h
        obtain ⟨d, hd, heq⟩ := (matches_one _ _).mp first
        obtain ⟨rfl, rfl⟩ := List.cons.inj heq
        exact ⟨hd, rest⟩
      · intro h
        obtain ⟨hc, rest⟩ := h
        exact ⟨[], s, rfl, .one hc, rest⟩

/-- A character of one class and then characters of another. -/
theorem matches_word (first rest : Char → Bool) (s : List Char) :
    Matches (seq (one first) (star (one rest))) s ↔
      ∃ c t, s = c :: t ∧ first c = true ∧ ∀ d ∈ t, rest d = true := by
  rw [matches_seq]
  simp only [matches_one, matches_star_one]
  constructor
  · rintro ⟨_, t, rfl, ⟨c, hc, rfl⟩, ht⟩
    exact ⟨c, t, rfl, hc, ht⟩
  · rintro ⟨c, t, rfl, hc, ht⟩
    exact ⟨[c], t, rfl, ⟨c, hc, rfl⟩, ht⟩

end NamingLint.Text.Pattern
