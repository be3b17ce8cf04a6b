import Mathlib.Data.List.Basic
import Mathlib.Data.List.TakeWhile
import NamingLint.Proofs.JsonGrammar

/-!
The lexemes of JSON texts: white space, numbers, strings and the three words. Each reader takes a
lexeme of the grammar off the front of a text, and it takes every lexeme of the grammar that the
text after it cannot make longer.
-/

namespace NamingLint.Json

/-- The text begins with nothing that is accepted. -/
def Stops (accepts : Char → Bool) (text : List Char) : Prop :=
  ∀ c ∈ text.head?, accepts c = false

namespace Stops

variable {accepts : Char → Bool} {a b : List Char}

theorem append (ha : Stops accepts a) (hb : Stops accepts b) : Stops accepts (a ++ b) := by
  cases a with
  | nil => exact hb
  | cons c a => exact ha

theorem imp {more : Char → Bool} (h : ∀ c, accepts c = true → more c = true)
    (ha : Stops more a) : Stops accepts a := by
  intro c hc
  have hmore : more c = false := ha c hc
  cases hacc : accepts c with
  | false => rfl
  | true => rw [h c hacc] at hmore; cases hmore

theorem cons {c : Char} (hc : accepts c = false) (rest : List Char) :
    Stops accepts (c :: rest) := by
  intro d hd
  rw [← Option.mem_some_iff.mp hd]
  exact hc

theorem digits_append (h : ∀ c : Char, c.isDigit = true → accepts c = false) (hne : a ≠ [])
    (ha : Digits a) : Stops accepts (a ++ b) := by
  cases a with
  | nil => exact absurd rfl hne
  | cons c a => exact cons (h c (ha c (by simp))) _

end Stops

theorem takeWhile_append_of_stops {accepts : Char → Bool} {a b : List Char}
    (ha : ∀ c ∈ a, accepts c = true) (hb : Stops accepts b) :
    (a ++ b).takeWhile accepts = a ∧ (a ++ b).dropWhile accepts = b := by
  rw [List.takeWhile_append_of_pos ha, List.dropWhile_append_of_pos ha]
  cases b with
  | nil => simp
  | cons c b =>
      have hc : accepts c = false := hb c (by simp)
      simp [hc]

theorem ne_of_accepts {accepts : Char → Bool} {c d : Char} (hc : accepts c = true)
    (hd : accepts d = false) : c ≠ d := by
  intro heq
  rw [heq, hd] at hc
  cases hc

namespace Decoder

theorem skip_append {blank rest : List Char} (hblank : Blank blank) (hrest : Stops isBlank rest) :
    skip (blank ++ rest) = rest :=
  (takeWhile_append_of_stops hblank hrest).2

theorem skip_sound (input : List Char) : ∃ blank, Blank blank ∧ input = blank ++ skip input :=
  ⟨input.takeWhile isBlank, fun _ hc => List.mem_takeWhile_imp hc,
    List.takeWhile_append_dropWhile.symm⟩

theorem digits_complete {ds rest : List Char} (hne : ds ≠ []) (hds : Digits ds)
    (hrest : Stops Char.isDigit rest) : digits (ds ++ rest) = some (ds, rest) := by
  obtain ⟨htake, hdrop⟩ := takeWhile_append_of_stops hds hrest
  rw [digits, htake, hdrop, if_neg hne]

theorem digits_sound {input ds rest : List Char} (h : digits input = some (ds, rest)) :
    input = ds ++ rest ∧ ds ≠ [] ∧ Digits ds := by
  simp only [digits] at h
  split at h
  · cases h
  · next hne =>
      obtain ⟨rfl, rfl⟩ := Prod.mk.inj (Option.some.inj h)
      exact ⟨List.takeWhile_append_dropWhile.symm, hne, fun _ hc => List.mem_takeWhile_imp hc⟩

theorem whole_complete {w rest : List Char} (hne : w ≠ []) (hdigits : Digits w)
    (hzero : w.head? = some '0' → w = ['0']) (hrest : Stops Char.isDigit rest) :
    whole (w ++ rest) = some (w, rest) := by
  cases w with
  | nil => exact absurd rfl hne
  | cons c w =>
      by_cases hc : c = '0'
      · obtain rfl : w = [] := (List.cons.inj (hzero (by simp [hc]))).2
        simp [whole, hc]
      · rw [List.cons_append, whole, if_neg hc]
        exact digits_complete hne hdigits hrest

theorem whole_sound {input w rest : List Char} (h : whole input = some (w, rest)) :
    input = w ++ rest ∧ w ≠ [] ∧ Digits w ∧ (w.head? = some '0' → w = ['0']) := by
  cases input with
  | nil => cases h
  | cons c input =>
      simp only [whole] at h
      split at h
      · next hc =>
          obtain ⟨rfl, rfl⟩ := Prod.mk.inj (Option.some.inj h)
          refine ⟨by rw [hc]; rfl, List.cons_ne_nil _ _, ?_, fun _ => rfl⟩
          intro d hd
          rw [List.mem_singleton.mp hd]
          rfl
      · next hc =>
          obtain ⟨hinput, hne, hdigits⟩ := digits_sound h
          refine ⟨hinput, hne, hdigits, fun hzero => ?_⟩
          cases w with
          | nil => exact absurd rfl hne
          | cons d w =>
              obtain rfl : d = '0' := by simpa using hzero
              exact absurd (List.cons.inj hinput).1 hc

theorem fraction_complete {f rest : List Char} (hdigits : Digits f)
    (hrest : Stops (fun c => c.isDigit || c = '.') rest) :
    fraction (Numeral.fractionText f ++ rest) = some (f, rest) := by
  by_cases hf : f = []
  · subst hf
    cases rest with
    | nil => rfl
    | cons c rest =>
        have hdot : c ≠ '.' := by
          rintro rfl
          cases hrest '.' rfl
        simp [Numeral.fractionText, fraction, hdot]
  · rw [Numeral.fractionText, if_neg hf, List.cons_append, fraction, if_pos rfl]
    exact digits_complete hf hdigits (hrest.imp (by simp +contextual))

theorem fraction_sound {input f rest : List Char} (h : fraction input = some (f, rest)) :
    input = Numeral.fractionText f ++ rest ∧ Digits f := by
  cases input with
  | nil =>
      obtain ⟨rfl, rfl⟩ := Prod.mk.inj (Option.some.inj h)
      exact ⟨rfl, nofun⟩
  | cons c input =>
      simp only [fraction] at h
      split at h
      · next hc =>
          obtain ⟨rfl, hne, hdigits⟩ := digits_sound h
          rw [Numeral.fractionText, if_neg hne, hc]
          exact ⟨rfl, hdigits⟩
      · obtain ⟨rfl, rfl⟩ := Prod.mk.inj (Option.some.inj h)
        exact ⟨rfl, nofun⟩

theorem sign_append {c : Option Char} (hc : ∀ d ∈ c, d = '+' ∨ d = '-') {rest : List Char}
    (hrest : Stops (fun d => d = '+' || d = '-') rest) :
    sign (c.toList ++ rest) = (c, rest) := by
  cases c with
  | some d => simp [sign, hc d rfl]
  | none =>
      cases rest with
      | nil => rfl
      | cons d rest =>
          have hd := hrest d (by simp)
          simp only [Bool.or_eq_false_iff, decide_eq_false_iff_not] at hd
          simp [sign, hd.1, hd.2]

theorem sign_sound (input : List Char) :
    input = (sign input).1.toList ++ (sign input).2 ∧
      ∀ d ∈ (sign input).1, d = '+' ∨ d = '-' := by
  cases input with
  | nil => exact ⟨rfl, nofun⟩
  | cons c input =>
      simp only [sign]
      split
      · next hc => exact ⟨rfl, fun d hd => Option.mem_some_iff.mp hd ▸ hc⟩
      · exact ⟨rfl, nofun⟩

/-- With this character, the text of a number may go on. -/
def extendsNumeral (c : Char) : Bool :=
  c.isDigit || c = '.' || c = 'e' || c = 'E'

theorem exponent_complete {e : Option Exponent} (he : ∀ x ∈ e, x.Valid) {rest : List Char}
    (hrest : Stops extendsNumeral rest) :
    exponent (Numeral.exponentText e ++ rest) = some (e, rest) := by
  cases e with
  | none =>
      cases rest with
      | nil => rfl
      | cons c rest =>
          have hc : extendsNumeral c = false := hrest c (by simp)
          simp only [extendsNumeral, Bool.or_eq_false_iff, decide_eq_false_iff_not] at hc
          simp [Numeral.exponentText, exponent, hc.1.2, hc.2]
  | some e =>
      have hvalid : e.Valid := he e rfl
      have hsign : sign (e.sign.toList ++ (e.digits ++ rest)) = (e.sign, e.digits ++ rest) := by
        apply sign_append hvalid.sign
        apply Stops.digits_append _ hvalid.nonempty hvalid.digits
        intro c hc
        have hplus : c ≠ '+' := ne_of_accepts hc rfl
        have hminus : c ≠ '-' := ne_of_accepts hc rfl
        simp [hplus, hminus]
      have hdigits : digits (e.digits ++ rest) = some (e.digits, rest) :=
        digits_complete hvalid.nonempty hvalid.digits
          (hrest.imp (by simp +contextual [extendsNumeral]))
      simp [Numeral.exponentText, exponent, hvalid.mark, hsign, hdigits]

theorem exponent_sound {input rest : List Char} {e : Option Exponent}
    (h : exponent input = some (e, rest)) :
    input = Numeral.exponentText e ++ rest ∧ ∀ x ∈ e, x.Valid := by
  cases input with
  | nil =>
      obtain ⟨rfl, rfl⟩ := Prod.mk.inj (Option.some.inj h)
      exact ⟨rfl, nofun⟩
  | cons c input =>
      simp only [exponent] at h
      split at h
      · next hc =>
          obtain ⟨⟨ds, after⟩, hds, h⟩ := Option.bind_eq_some_iff.mp h
          obtain ⟨rfl, rfl⟩ := Prod.mk.inj (Option.some.inj h)
          obtain ⟨hafter, hne, hdigits⟩ := digits_sound hds
          obtain ⟨hinput, hsign⟩ := sign_sound input
          refine ⟨?_, ?_⟩
          · rw [Numeral.exponentText, List.cons_append, List.append_assoc, ← hafter, ← hinput]
          · intro x hx
            rw [← Option.mem_some_iff.mp hx]
            exact ⟨hc, hsign, hne, hdigits⟩
      · obtain ⟨rfl, rfl⟩ := Prod.mk.inj (Option.some.inj h)
        exact ⟨rfl, nofun⟩

theorem minus_append (negative : Bool) {rest : List Char} (hrest : Stops (· = '-') rest) :
    minus ((if negative then ['-'] else []) ++ rest) = (negative, rest) := by
  cases negative with
  | true => rfl
  | false =>
      cases rest with
      | nil => rfl
      | cons c rest =>
          have hc : c ≠ '-' := by simpa using hrest c (by simp)
          simp [minus, hc]

theorem minus_sound (input : List Char) :
    input = (if (minus input).1 then ['-'] else []) ++ (minus input).2 := by
  cases input with
  | nil => rfl
  | cons c input =>
      simp only [minus]
      split
      · next hc => rw [hc]; rfl
      · rfl

theorem numeral_complete {n : Numeral} (h : n.Valid) {rest : List Char}
    (hrest : Stops extendsNumeral rest) : numeral (n.text ++ rest) = some (n, rest) := by
  have hfraction : Stops (fun c => c.isDigit || c = '.')
      (Numeral.exponentText n.exponent ++ rest) := by
    refine Stops.append ?_ (hrest.imp (by simp +contextual [extendsNumeral]))
    intro c hc
    cases he : n.exponent with
    | none => rw [he] at hc; cases hc
    | some e =>
        obtain rfl : e.mark = c := by simpa [he, Numeral.exponentText] using hc
        rcases (h.exponent e he).mark with hmark | hmark <;> rw [hmark] <;> rfl
  have hwhole : Stops Char.isDigit
      (Numeral.fractionText n.fraction ++ (Numeral.exponentText n.exponent ++ rest)) := by
    refine Stops.append ?_ (hfraction.imp (by simp +contextual))
    intro c hc
    unfold Numeral.fractionText at hc
    split at hc
    · cases hc
    · rw [← Option.mem_some_iff.mp hc]; rfl
  have hminus : Stops (· = '-')
      (n.whole ++ (Numeral.fractionText n.fraction ++
        (Numeral.exponentText n.exponent ++ rest))) := by
    apply Stops.digits_append _ h.nonempty h.whole
    intro c hc
    exact decide_eq_false (ne_of_accepts hc rfl)
  simp only [numeral, Numeral.text, List.append_assoc, minus_append _ hminus,
    whole_complete h.nonempty h.whole h.noLeadingZero hwhole,
    fraction_complete h.fraction hfraction, exponent_complete h.exponent hrest,
    Option.bind_eq_bind, Option.bind_some]
  rfl

theorem numeral_sound {input rest : List Char} {n : Numeral}
    (h : numeral input = some (n, rest)) : input = n.text ++ rest ∧ n.Valid := by
  obtain ⟨⟨w, afterWhole⟩, hw, h⟩ := Option.bind_eq_some_iff.mp h
  obtain ⟨⟨f, afterFraction⟩, hf, h⟩ := Option.bind_eq_some_iff.mp h
  obtain ⟨⟨e, afterExponent⟩, he, h⟩ := Option.bind_eq_some_iff.mp h
  obtain ⟨rfl, rfl⟩ := Prod.mk.inj (Option.some.inj h)
  obtain ⟨hwhole, hne, hdigits, hzero⟩ := whole_sound hw
  obtain ⟨hfraction, hfdigits⟩ := fraction_sound hf
  obtain ⟨hexponent, hvalid⟩ := exponent_sound he
  refine ⟨?_, hne, hdigits, hzero, hfdigits, hvalid⟩
  calc input = (if (minus input).1 then ['-'] else []) ++ (minus input).2 := minus_sound input
    _ = _ := by rw [hwhole, hfraction, hexponent]; simp only [Numeral.text, List.append_assoc]

theorem unit_complete {ds : List Char} {n : Nat} (h : HexUnit ds n) (rest : List Char) :
    unit (ds ++ rest) = some (n, rest) := by
  obtain ⟨ha, hb, hc, hd⟩ := h
  simp [unit, ha, hb, hc, hd]

theorem unit_sound {input rest : List Char} {n : Nat} (h : unit input = some (n, rest)) :
    ∃ ds, HexUnit ds n ∧ input = ds ++ rest := by
  unfold unit at h
  split at h
  · next a b c d after =>
      obtain ⟨x, ha, h⟩ := Option.bind_eq_some_iff.mp h
      obtain ⟨y, hb, h⟩ := Option.bind_eq_some_iff.mp h
      obtain ⟨z, hc, h⟩ := Option.bind_eq_some_iff.mp h
      obtain ⟨w, hd, h⟩ := Option.bind_eq_some_iff.mp h
      obtain ⟨rfl, rfl⟩ := Prod.mk.inj (Option.some.inj h)
      exact ⟨[a, b, c, d], .digits ha hb hc hd, rfl⟩
  · cases h

theorem lookup_letterEscapes :
    ∀ p ∈ letterEscapes, p.1 ≠ 'u' ∧ letterEscapes.lookup p.1 = some p.2 := by
  decide

theorem mem_of_lookup {e c : Char} :
    ∀ {l : List (Char × Char)}, l.lookup e = some c → (e, c) ∈ l := by
  intro l h
  obtain ⟨l₁, l₂, rfl, -⟩ := List.lookup_eq_some_iff.mp h
  simp

theorem character_complete {a : List Char} {c : Char} (h : Spells a c) (rest : List Char) :
    character (a ++ rest) = some (c, rest) := by
  cases h with
  | plain hquote hbackslash hcontrol =>
      simp [character, hquote, hbackslash, Nat.not_lt.mpr hcontrol]
  | letter hmem =>
      obtain ⟨hu, hlookup⟩ := lookup_letterEscapes _ hmem
      simp only at hu hlookup
      simp [character, escaped, hu, hlookup]
  | unit hunit hhigh hlow =>
      simp [character, escaped, unicode, unit_complete hunit, hhigh, hlow]
  | pair hfirst hsecond hhigh hlow =>
      simp [character, escaped, unicode, secondHalf, unit_complete hfirst,
        unit_complete hsecond, hhigh, hlow]

theorem secondHalf_sound {high : Nat} {input rest : List Char} {c : Char}
    (h : secondHalf high input = some (c, rest)) :
    ∃ low ds, HexUnit ds low ∧ isLow low = true ∧ c = combine high low ∧
      input = '\\' :: 'u' :: (ds ++ rest) := by
  unfold secondHalf at h
  split at h
  · next after =>
      obtain ⟨⟨low, afterUnit⟩, hunit, hlast⟩ := Option.bind_eq_some_iff.mp h
      obtain ⟨ds, hds, rfl⟩ := unit_sound hunit
      simp only at hlast
      split at hlast
      · next hlow =>
          obtain ⟨rfl, rfl⟩ := Prod.mk.inj (Option.some.inj hlast)
          exact ⟨low, ds, hds, hlow, rfl, rfl⟩
      · cases hlast
  · cases h

theorem unicode_sound {input rest : List Char} {c : Char} (h : unicode input = some (c, rest)) :
    ∃ a, Spells ('\\' :: 'u' :: a) c ∧ input = a ++ rest := by
  obtain ⟨⟨n, afterUnit⟩, hunit, hlast⟩ := Option.bind_eq_some_iff.mp h
  obtain ⟨ds, hds, rfl⟩ := unit_sound hunit
  simp only at hlast
  split at hlast
  · next hhigh =>
      obtain ⟨low, second, hsecond, hlow, hc, hafter⟩ := secondHalf_sound hlast
      refine ⟨ds ++ '\\' :: 'u' :: second, ?_, by simp [hafter]⟩
      rw [hc]
      exact .pair hds hsecond hhigh hlow
  · next hhigh =>
      split at hlast
      · cases hlast
      · next hlow =>
          obtain ⟨rfl, rfl⟩ := Prod.mk.inj (Option.some.inj hlast)
          exact ⟨ds, .unit hds (by simpa using hhigh) (by simpa using hlow), rfl⟩

theorem character_sound {input rest : List Char} {c : Char}
    (h : character input = some (c, rest)) : ∃ a, Spells a c ∧ input = a ++ rest := by
  cases input with
  | nil => cases h
  | cons d input =>
      simp only [character] at h
      split at h
      · next hd =>
          subst hd
          cases input with
          | nil => cases h
          | cons e input =>
              simp only [escaped] at h
              split at h
              · next he =>
                  obtain ⟨a, ha, rfl⟩ := unicode_sound h
                  exact ⟨'\\' :: 'u' :: a, ha, by rw [he]; rfl⟩
              · obtain ⟨x, hx, h⟩ := Option.map_eq_some_iff.mp h
                obtain ⟨rfl, rfl⟩ := Prod.mk.inj h
                exact ⟨['\\', e], .letter (mem_of_lookup hx), rfl⟩
      · next hbackslash =>
          split at h
          · cases h
          · next hd =>
              obtain ⟨hquote, hcontrol⟩ := not_or.mp hd
              obtain ⟨rfl, rfl⟩ := Prod.mk.inj (Option.some.inj h)
              exact ⟨[d], .plain hquote hbackslash (Nat.not_lt.mp hcontrol), rfl⟩

theorem head?_of_spells {a : List Char} {c : Char} (h : Spells a c) (rest : List Char) :
    (a ++ rest).head? ≠ some '"' ∧ a ≠ [] := by
  cases h with
  | plain hquote _ _ => simp [hquote]
  | letter _ | unit _ _ _ | pair _ _ _ _ => simp

theorem characters_complete {body s : List Char} (h : SpellsAll body s) (rest : List Char) :
    ∀ {n : Nat}, body.length < n → characters n (body ++ '"' :: rest) = some (s, rest) := by
  induction h with
  | nil =>
      intro n hn
      cases n with
      | zero => cases hn
      | succ n => rfl
  | @cons a b c s first _ ih =>
      intro n hn
      obtain ⟨hhead, hne⟩ := head?_of_spells first (b ++ '"' :: rest)
      have hpos : 0 < a.length := List.length_pos_iff.mpr hne
      rw [List.length_append] at hn
      cases n with
      | zero => omega
      | succ n =>
          have hread := character_complete first (b ++ '"' :: rest)
          have hrest := @ih n (by omega)
          rw [List.append_assoc, characters, if_neg hhead]
          simp [hread, hrest]

theorem characters_sound : ∀ {n : Nat} {input s rest : List Char},
    characters n input = some (s, rest) →
      ∃ body, SpellsAll body s ∧ input = body ++ '"' :: rest := by
  intro n
  induction n with
  | zero => intro input s rest h; cases h
  | succ n ih =>
      intro input s rest h
      simp only [characters] at h
      split at h
      · next hquote =>
          obtain ⟨rfl, rfl⟩ := Prod.mk.inj (Option.some.inj h)
          exact ⟨[], .nil, List.eq_cons_of_mem_head? hquote⟩
      · obtain ⟨⟨c, afterOne⟩, hone, h⟩ := Option.bind_eq_some_iff.mp h
        obtain ⟨⟨t, afterAll⟩, hmore, h⟩ := Option.bind_eq_some_iff.mp h
        obtain ⟨rfl, rfl⟩ := Prod.mk.inj (Option.some.inj h)
        obtain ⟨a, ha, rfl⟩ := character_sound hone
        obtain ⟨b, hb, rfl⟩ := ih hmore
        exact ⟨a ++ b, .cons ha hb, by simp⟩

theorem string_complete {body : List Char} {s : String} (h : SpellsAll body s.toList)
    (rest : List Char) : string (body ++ '"' :: rest) = some (s, rest) := by
  have hread : characters (body ++ '"' :: rest).length (body ++ '"' :: rest) =
      some (s.toList, rest) :=
    characters_complete h rest (by simp)
  simp only [string, hread, Option.bind_eq_bind, Option.bind_some, String.ofList_toList]
  rfl

theorem string_sound {input rest : List Char} {s : String} (h : string input = some (s, rest)) :
    ∃ body, SpellsAll body s.toList ∧ input = body ++ '"' :: rest := by
  obtain ⟨⟨t, after⟩, hread, h⟩ := Option.bind_eq_some_iff.mp h
  obtain ⟨rfl, rfl⟩ := Prod.mk.inj (Option.some.inj h)
  obtain ⟨body, hbody, hinput⟩ := characters_sound hread
  exact ⟨body, by simpa using hbody, hinput⟩

theorem keyword_sound {input rest : List Char} {d : Datum} (h : keyword input = some (d, rest)) :
    ∃ word, Written (.value d) word ∧ input = word ++ rest := by
  obtain ⟨⟨word, meaning⟩, hmem, h⟩ := List.exists_of_findSome?_eq_some h
  obtain ⟨after, hafter, h⟩ := Option.map_eq_some_iff.mp h
  obtain ⟨rfl, rfl⟩ := Prod.mk.inj h
  have hwritten : ∀ p ∈ keywords, Written (.value p.2) p.1 := by
    simp only [keywords, List.forall_mem_cons]
    exact ⟨.null, .true, .false, nofun⟩
  exact ⟨word, hwritten _ hmem, (List.isPrefixOf?_eq_some_iff_append_eq.mp hafter).symm⟩

end Decoder
end NamingLint.Json
