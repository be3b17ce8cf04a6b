import NamingLint.Proofs.JsonLexemes

/-!
The decoder accepts exactly the texts that the grammar derives, and gives each its one meaning. The
bounds that its readers take are never felt: the length of the text is enough.
-/

namespace NamingLint.Json

namespace Decoder

section Lists

variable {α : Type} {read : Reader α} {close : Char}

theorem expect_sound {c : Char} {input rest : List Char} (h : expect c input = some rest) :
    input = c :: rest := by
  simp only [expect] at h
  split at h
  · next hhead =>
      rw [← Option.some.inj h]
      exact List.eq_cons_of_mem_head? hhead
  · cases h

theorem separated_last {input rest : List Char} {x : α} (hclose : close ≠ ',')
    (h : read input = some (x, close :: rest)) (n : Nat) :
    separated read close (n + 1) input = some ([x], rest) := by
  simp [separated, h, hclose, expect]

theorem separated_more {input after rest : List Char} {x : α} {xs : List α} {n : Nat}
    (h : read input = some (x, ',' :: after))
    (hmore : separated read close n after = some (xs, rest)) :
    separated read close (n + 1) input = some (x :: xs, rest) := by
  simp [separated, h, hmore]

theorem bracketed_none {blank : List Char} (hblank : Blank blank)
    (hclose : isBlank close = false) (n : Nat) (rest : List Char) :
    bracketed read close n (blank ++ close :: rest) = some ([], rest) := by
  simp [bracketed, skip_append hblank (Stops.cons hclose rest)]

theorem bracketed_some {n : Nat} {input : List Char} {found : List α × List Char}
    (hclosed : (skip input).head? = some close → read input = none)
    (h : separated read close n input = some found) :
    bracketed read close n input = some found := by
  have hopen : (skip input).head? ≠ some close := by
    intro hhead
    cases n with
    | zero => cases h
    | succ n => simp [separated, hclosed hhead] at h
  rw [bracketed, if_neg hopen, h]

section Soundness

variable (one : α → List Char → Prop) (many : List α → List Char → Prop)
  (hread : ∀ {input x rest}, read input = some (x, rest) →
    ∃ text, one x text ∧ input = text ++ rest)
  (hlast : ∀ {x text}, one x text → many [x] text)
  (hmore : ∀ {x xs text rest}, one x text → many xs rest → many (x :: xs) (text ++ ',' :: rest))

include hread hlast hmore

theorem separated_sound : ∀ {n : Nat} {input rest : List Char} {xs : List α},
    separated read close n input = some (xs, rest) →
      ∃ body, many xs body ∧ input = body ++ close :: rest := by
  intro n
  induction n with
  | zero => intro input rest xs h; cases h
  | succ n ih =>
      intro input rest xs h
      obtain ⟨⟨x, after⟩, hx, htail⟩ := Option.bind_eq_some_iff.mp h
      obtain ⟨text, htext, rfl⟩ := hread hx
      simp only at htail
      split at htail
      · next hcomma =>
          obtain ⟨⟨ys, afterAll⟩, hys, hend⟩ := Option.bind_eq_some_iff.mp htail
          obtain ⟨rfl, rfl⟩ := Prod.mk.inj (Option.some.inj hend)
          obtain ⟨body, hbody, hafter⟩ := ih hys
          refine ⟨text ++ ',' :: body, hmore htext hbody, ?_⟩
          rw [List.eq_cons_of_mem_head? hcomma, hafter, List.append_assoc, List.cons_append]
      · obtain ⟨afterAll, hclose, hend⟩ := Option.bind_eq_some_iff.mp htail
        obtain ⟨rfl, rfl⟩ := Prod.mk.inj (Option.some.inj hend)
        exact ⟨text, hlast htext, by rw [expect_sound hclose]⟩

theorem bracketed_sound {n : Nat} {input rest : List Char} {xs : List α}
    (h : bracketed read close n input = some (xs, rest)) :
    (xs = [] ∧ ∃ blank, Blank blank ∧ input = blank ++ close :: rest) ∨
      ∃ body, many xs body ∧ input = body ++ close :: rest := by
  simp only [bracketed] at h
  split at h
  · next hhead =>
      obtain ⟨rfl, rfl⟩ := Prod.mk.inj (Option.some.inj h)
      obtain ⟨blank, hblank, hinput⟩ := skip_sound input
      refine .inl ⟨rfl, blank, hblank, ?_⟩
      rw [← List.eq_cons_of_mem_head? hhead]
      exact hinput
  · exact .inr (separated_sound one many hread hlast hmore h)

end Soundness

end Lists

/-- After this character, a value or the blanks after it may go on. -/
def extendsItem (c : Char) : Bool :=
  isBlank c || extendsNumeral c

/-- With this character, the text of a number may begin. -/
def beginsNumeral (c : Char) : Bool :=
  c = '-' || c.isDigit

theorem numeral_starts {n : Numeral} (h : n.Valid) :
    ∃ c rest, n.text = c :: rest ∧ beginsNumeral c = true := by
  unfold Numeral.text
  split
  · exact ⟨'-', _, rfl, rfl⟩
  · cases hw : n.whole with
    | nil => exact absurd hw h.nonempty
    | cons c w =>
        have hc : c.isDigit = true := h.whole c (by simp [hw])
        exact ⟨c, _, rfl, by simp [beginsNumeral, hc]⟩

theorem keyword_of_beginsNumeral {c : Char} (hc : beginsNumeral c = true) (rest : List Char) :
    keyword (c :: rest) = none := by
  have hn : c ≠ 'n' := ne_of_accepts hc rfl
  have ht : c ≠ 't' := ne_of_accepts hc rfl
  have hf : c ≠ 'f' := ne_of_accepts hc rfl
  simp [keyword, keywords, List.isPrefixOf?, hn.symm, ht.symm, hf.symm]

theorem written_starts {d : Datum} {text : List Char} (h : Written (.value d) text) :
    ∃ c rest, text = c :: rest ∧ isBlank c = false := by
  cases h with
  | null | true | false | text _ | emptyArray _ | array _ | emptyObject _ | object _ =>
      exact ⟨_, _, rfl, rfl⟩
  | number hvalid =>
      obtain ⟨c, rest, htext, hc⟩ := numeral_starts hvalid
      refine ⟨c, rest, htext, ?_⟩
      simp only [isBlank, Bool.or_eq_false_iff, decide_eq_false_iff_not]
      exact ⟨⟨⟨ne_of_accepts hc rfl, ne_of_accepts hc rfl⟩, ne_of_accepts hc rfl⟩,
        ne_of_accepts hc rfl⟩

theorem value_close (n : Nat) (rest : List Char) : value n (']' :: rest) = none := by
  cases n <;> rfl

/-- What the readers make of a phrase when the bounds are large enough and what follows cannot make
the phrase longer. -/
def Reads : Phrase → List Char → Prop
  | .value d, text => ∀ n rest, text.length ≤ n + 1 → Stops extendsNumeral rest →
      value (n + 1) (text ++ rest) = some (d, rest)
  | .item d, text => ∀ n rest, text.length ≤ n → Stops extendsItem rest →
      item (value n) (text ++ rest) = some (d, rest)
  | .member m, text => ∀ n rest, text.length ≤ n → Stops extendsItem rest →
      member (value n) (text ++ rest) = some (m, rest)
  | .items ds, text => ∀ n m rest, text.length ≤ n → text.length < m →
      separated (item (value n)) ']' m (text ++ ']' :: rest) = some (ds, rest)
  | .members ms, text => ∀ n m rest, text.length ≤ n → text.length < m →
      separated (member (value n)) '\x7d' m (text ++ '\x7d' :: rest) = some (ms, rest)

theorem reads_item {before text after : List Char} {d : Datum} (hbefore : Blank before)
    (hvalue : Written (.value d) text) (hafter : Blank after) (h : Reads (.value d) text) :
    Reads (.item d) (before ++ (text ++ after)) := by
  intro n rest hn hrest
  have hstop : Stops extendsNumeral (after ++ rest) := by
    refine Stops.append ?_ (hrest.imp (by simp +contextual [extendsItem]))
    intro c hc
    have hblank : isBlank c = true := hafter c (List.mem_of_mem_head? hc)
    simp only [isBlank, Bool.or_eq_true, decide_eq_true_eq] at hblank
    rcases hblank with ((rfl | rfl) | rfl) | rfl <;> rfl
  obtain ⟨c, tail, htext, hc⟩ := written_starts hvalue
  have hpos : 0 < text.length := by rw [htext]; exact Nat.succ_pos _
  simp only [List.length_append] at hn
  have hread : value n (text ++ (after ++ rest)) = some (d, after ++ rest) := by
    cases n with
    | zero => omega
    | succ n => exact h n (after ++ rest) (by omega) hstop
  have hskip : skip (before ++ (text ++ (after ++ rest))) = text ++ (after ++ rest) := by
    apply skip_append hbefore
    rw [htext]
    exact Stops.cons hc _
  have hend : skip (after ++ rest) = rest :=
    skip_append hafter (hrest.imp (by simp +contextual [extendsItem]))
  simp [item, hskip, hread, hend]

theorem reads_member {before name gap text : List Char} {s : String} {d : Datum}
    (hbefore : Blank before) (hname : SpellsAll name s.toList) (hgap : Blank gap)
    (h : Reads (.item d) text) :
    Reads (.member (s, d)) (before ++ '"' :: (name ++ '"' :: (gap ++ ':' :: text))) := by
  intro n rest hn hrest
  have hread : item (value n) (text ++ rest) = some (d, rest) := by
    apply h n rest _ hrest
    simp only [List.length_append, List.length_cons] at hn
    omega
  have hskip : skip (before ++ '"' :: (name ++ '"' :: (gap ++ ':' :: (text ++ rest)))) =
      '"' :: (name ++ '"' :: (gap ++ ':' :: (text ++ rest))) :=
    skip_append hbefore (Stops.cons rfl _)
  have hgap' : skip (gap ++ ':' :: (text ++ rest)) = ':' :: (text ++ rest) :=
    skip_append hgap (Stops.cons rfl _)
  simp [member, hskip, expect, string_complete hname, hgap', hread]

/-- Every phrase of the grammar is read as what it means. -/
theorem reads_of_written {p : Phrase} {text : List Char} (h : Written p text) :
    Reads p text := by
  induction h with
  | null | true | false =>
      intro n rest _ _
      rfl
  | number hvalid =>
      intro n rest _ hrest
      obtain ⟨c, tail, htext, hc⟩ := numeral_starts hvalid
      have hquote : c ≠ '"' := ne_of_accepts hc rfl
      have hbracket : c ≠ '[' := ne_of_accepts hc rfl
      have hbrace : c ≠ '\x7b' := ne_of_accepts hc rfl
      have hnumeral := numeral_complete hvalid hrest
      rw [htext, List.cons_append] at hnumeral ⊢
      simp [value, hquote, hbracket, hbrace, keyword_of_beginsNumeral hc, hnumeral]
  | text hbody =>
      intro n rest _ _
      simp [value, string_complete hbody]
  | emptyArray hblank =>
      intro n rest _ _
      have hclose : isBlank ']' = false := rfl
      simp [value, bracketed_none hblank hclose]
  | @array body ds _ ih =>
      intro n rest hn _
      simp only [List.length_cons, List.length_append, List.length_nil] at hn
      -- The brackets pay for the one that the bound goes down by, and for the last round inside.
      have hread : bracketed (item (value n)) ']' n (body ++ ']' :: rest) = some (ds, rest) := by
        apply bracketed_some _ (ih n n rest (by omega) (by omega))
        intro hhead
        rw [item, List.eq_cons_of_mem_head? hhead, value_close]
        rfl
      simp [value, hread]
  | emptyObject hblank =>
      intro n rest _ _
      have hclose : isBlank '\x7d' = false := rfl
      simp [value, bracketed_none hblank hclose]
  | @object body ms _ ih =>
      intro n rest hn _
      simp only [List.length_cons, List.length_append, List.length_nil] at hn
      have hread : bracketed (member (value n)) '\x7d' n (body ++ '\x7d' :: rest) =
          some (ms, rest) := by
        apply bracketed_some _ (ih n n rest (by omega) (by omega))
        intro hhead
        rw [member, List.eq_cons_of_mem_head? hhead]
        rfl
      simp [value, hread]
  | item hbefore hvalue hafter ih => exact reads_item hbefore hvalue hafter ih
  | member hbefore hname hgap _ ih => exact reads_member hbefore hname hgap ih
  | lastItem _ ih | lastMember _ ih =>
      intro n m rest hn hm
      cases m with
      | zero => cases hm
      | succ m => exact separated_last (by decide) (ih n _ hn (Stops.cons rfl _)) m
  | moreItems _ _ ih ihrest | moreMembers _ _ ih ihrest =>
      intro n m rest hn hm
      simp only [List.length_append, List.length_cons] at hn hm
      cases m with
      | zero => cases hm
      | succ m =>
          rw [List.append_assoc]
          exact separated_more (ih n _ (by omega) (Stops.cons rfl _))
            (ihrest n m rest (by omega) (by omega))

/-- A reader of values takes what the grammar derives. -/
def Sound (read : Reader Datum) : Prop :=
  ∀ {input rest d}, read input = some (d, rest) →
    ∃ text, Written (.value d) text ∧ input = text ++ rest

theorem item_sound {read : Reader Datum} (hread : Sound read) {input rest : List Char}
    {d : Datum} (h : item read input = some (d, rest)) :
    ∃ text, Written (.item d) text ∧ input = text ++ rest := by
  obtain ⟨⟨e, after⟩, he, hend⟩ := Option.bind_eq_some_iff.mp h
  obtain ⟨rfl, rfl⟩ := Prod.mk.inj (Option.some.inj hend)
  obtain ⟨text, htext, hinput⟩ := hread he
  obtain ⟨before, hbefore, hskip⟩ := skip_sound input
  obtain ⟨last, hlast, hafter⟩ := skip_sound after
  refine ⟨before ++ (text ++ last), .item hbefore htext hlast, ?_⟩
  calc input = before ++ (text ++ after) := by rw [← hinput, ← hskip]
    _ = before ++ (text ++ (last ++ skip after)) := by rw [← hafter]
    _ = before ++ (text ++ last) ++ skip after := by simp only [List.append_assoc]

theorem member_sound {read : Reader Datum} (hread : Sound read) {input rest : List Char}
    {m : String × Datum} (h : member read input = some (m, rest)) :
    ∃ text, Written (.member m) text ∧ input = text ++ rest := by
  obtain ⟨afterQuote, hquote, h⟩ := Option.bind_eq_some_iff.mp h
  obtain ⟨⟨s, afterName⟩, hname, h⟩ := Option.bind_eq_some_iff.mp h
  obtain ⟨afterColon, hcolon, h⟩ := Option.bind_eq_some_iff.mp h
  obtain ⟨⟨d, afterValue⟩, hvalue, h⟩ := Option.bind_eq_some_iff.mp h
  obtain ⟨rfl, rfl⟩ := Prod.mk.inj (Option.some.inj h)
  obtain ⟨before, hbefore, hskip⟩ := skip_sound input
  obtain ⟨name, hspells, rfl⟩ := string_sound hname
  obtain ⟨gap, hgap, hskipGap⟩ := skip_sound afterName
  obtain ⟨text, htext, rfl⟩ := item_sound hread hvalue
  refine ⟨_, .member hbefore hspells hgap htext, ?_⟩
  rw [hskip, expect_sound hquote, hskipGap, expect_sound hcolon]
  simp

theorem value_sound : ∀ n, Sound (value n) := by
  intro n
  induction n with
  | zero => intro input rest d h; cases h
  | succ n ih =>
      intro input rest d h
      cases input with
      | nil => cases h
      | cons c input =>
          simp only [value] at h
          split at h
          · next hc =>
              subst hc
              obtain ⟨⟨s, after⟩, hs, hend⟩ := Option.bind_eq_some_iff.mp h
              obtain ⟨rfl, rfl⟩ := Prod.mk.inj (Option.some.inj hend)
              obtain ⟨body, hbody, rfl⟩ := string_sound hs
              exact ⟨'"' :: (body ++ ['"']), .text hbody, by simp⟩
          split at h
          · next hc =>
              subst hc
              obtain ⟨⟨ds, after⟩, hds, hend⟩ := Option.bind_eq_some_iff.mp h
              obtain ⟨rfl, rfl⟩ := Prod.mk.inj (Option.some.inj hend)
              obtain ⟨rfl, blank, hblank, rfl⟩ | ⟨body, hbody, rfl⟩ :=
                bracketed_sound (fun d => Written (.item d)) (fun ds => Written (.items ds))
                  (item_sound ih) .lastItem .moreItems hds
              · exact ⟨'[' :: (blank ++ [']']), .emptyArray hblank, by simp⟩
              · exact ⟨'[' :: (body ++ [']']), .array hbody, by simp⟩
          split at h
          · next hc =>
              subst hc
              obtain ⟨⟨ms, after⟩, hms, hend⟩ := Option.bind_eq_some_iff.mp h
              obtain ⟨rfl, rfl⟩ := Prod.mk.inj (Option.some.inj hend)
              obtain ⟨rfl, blank, hblank, rfl⟩ | ⟨body, hbody, rfl⟩ :=
                bracketed_sound (fun m => Written (.member m)) (fun ms => Written (.members ms))
                  (member_sound ih) .lastMember .moreMembers hms
              · exact ⟨'\x7b' :: (blank ++ ['\x7d']), .emptyObject hblank, by simp⟩
              · exact ⟨'\x7b' :: (body ++ ['\x7d']), .object hbody, by simp⟩
          split at h
          · next found hfound =>
              rw [Option.some.inj h] at hfound
              exact keyword_sound hfound
          · obtain ⟨⟨m, after⟩, hm, hend⟩ := Option.bind_eq_some_iff.mp h
            obtain ⟨rfl, rfl⟩ := Prod.mk.inj (Option.some.inj hend)
            obtain ⟨hinput, hvalid⟩ := numeral_sound hm
            exact ⟨m.text, .number hvalid, hinput⟩

end Decoder

open Decoder in
/-- The decoder gives a text the meaning that the grammar derives for it, and refuses every text
for which the grammar derives none. -/
theorem decode_eq_some_iff {text : List Char} {d : Datum} :
    decode text = some d ↔ Written (.item d) text := by
  constructor
  · intro h
    obtain ⟨⟨e, rest⟩, hitem, hend⟩ := Option.bind_eq_some_iff.mp h
    simp only at hend
    split at hend
    · next hrest =>
        obtain ⟨body, hbody, htext⟩ := item_sound (value_sound text.length) hitem
        rw [← Option.some.inj hend, htext, hrest, List.append_nil]
        exact hbody
    · cases hend
  · intro h
    have hread : item (value text.length) (text ++ []) = some (d, []) :=
      reads_of_written h text.length [] (Nat.le_refl _) nofun
    rw [List.append_nil] at hread
    simp [decode, hread]

example : decode "[ 1.50e+1 , \"\\ud83d\\ude00\\n\" ]\n".toList =
    some (.array [.number 15, .text "😀\n"]) := by
  cbv

/-- A text means one thing at most. -/
theorem written_unique {text : List Char} {d e : Datum} (hd : Written (.item d) text)
    (he : Written (.item e) text) : d = e :=
  Option.some.inj ((decode_eq_some_iff.mpr hd).symm.trans (decode_eq_some_iff.mpr he))

end NamingLint.Json
