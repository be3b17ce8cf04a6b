import Mathlib.Algebra.Order.Ring.Rat
import NamingLint.Proofs.JsonDecoding

/-!
The layout of values is JSON text. Escapes and digits are derived from the grammar first. Then the
values go by their own recursion: the line end and the blanks before a closing bracket count with
the last element before it.
-/

namespace NamingLint.Json

theorem hexValue?_hexDigit : ∀ n < 16, hexValue? (hexDigit n) = some n := by
  decide

theorem spells_control {c : Char} (hc : c.toNat < 0x20) :
    Spells ['\\', 'u', '0', '0', hexDigit (c.toNat / 16), hexDigit (c.toNat % 16)] c := by
  have hunit : HexUnit ['0', '0', hexDigit (c.toNat / 16), hexDigit (c.toNat % 16)]
      (((0 * 16 + 0) * 16 + c.toNat / 16) * 16 + c.toNat % 16) :=
    .digits rfl rfl (hexValue?_hexDigit _ (by omega)) (hexValue?_hexDigit _ (by omega))
  have hvalue : ((0 * 16 + 0) * 16 + c.toNat / 16) * 16 + c.toNat % 16 = c.toNat := by omega
  have hhigh : isHigh c.toNat = false := by
    simp only [isHigh, Bool.and_eq_false_iff, decide_eq_false_iff_not]
    omega
  have hlow : isLow c.toNat = false := by
    simp only [isLow, Bool.and_eq_false_iff, decide_eq_false_iff_not]
    omega
  rw [hvalue] at hunit
  have hspells := Spells.unit hunit hhigh hlow
  rwa [Char.ofNat_toNat] at hspells

theorem spells_escape (c : Char) : Spells (escape c) c := by
  unfold escape
  split
  case h_8 hquote hbackslash _ _ _ _ _ =>
    split
    · next hcontrol => exact spells_control hcontrol
    · next hcontrol => exact .plain hquote hbackslash (Nat.not_lt.mp hcontrol)
  all_goals exact .letter (by decide)

theorem spellsAll_escape : ∀ s : List Char, SpellsAll (s.flatMap escape) s
  | [] => .nil
  | c :: s => .cons (spells_escape c) (spellsAll_escape s)

theorem written_textLiteral (s : String) : Written (.value (.text s)) (textLiteral s) :=
  .text (spellsAll_escape s.toList)

/-- A positive number is written without a leading zero. -/
theorem head?_toDigits {n : Nat} (hn : 0 < n) : (Nat.toDigits 10 n).head? ≠ some '0' := by
  induction n using Nat.strongRecOn with
  | _ n ih =>
      by_cases hlt : n < 10
      · have hdigit : ∀ d < 10, 0 < d → Nat.digitChar d ≠ '0' := by decide
        rw [Nat.toDigits_of_lt_base hlt]
        simpa using hdigit n hlt hn
      · have hdigits := Nat.toDigits_of_base_le (b := 10) (by omega) (Nat.not_lt.mp hlt)
        have hshorter := ih (n / 10) (by omega) (by omega)
        rw [hdigits]
        cases hhead : Nat.toDigits 10 (n / 10) with
        | nil => exact absurd hhead Nat.toDigits_ne_nil
        | cons d ds => rw [hhead] at hshorter; exact hshorter

/-- A natural number in its decimal digits. -/
def Numeral.decimal (n : Nat) : Numeral :=
  { negative := false, whole := Nat.toDigits 10 n, fraction := [], exponent := none }

namespace Numeral

theorem valid_decimal (n : Nat) : (decimal n).Valid := by
  refine ⟨Nat.toDigits_ne_nil, ?_, ?_, nofun, nofun⟩
  · intro c hc
    exact Nat.isDigit_of_mem_toDigits (by omega) (by omega) hc
  · intro hzero
    cases n with
    | zero => rfl
    | succ n => exact absurd hzero (head?_toDigits (Nat.succ_pos n))

theorem value_decimal (n : Nat) : (decimal n).value = n := by
  have hdigits : Nat.ofDigitChars 10 (Nat.toDigits 10 n ++ []) 0 = n := by
    rw [List.append_nil, Nat.ofDigitChars_ten_toDigits]
  simp only [decimal, value, hdigits, List.length_nil, pow_zero, div_one, Bool.false_eq_true,
    if_false]

theorem text_decimal (n : Nat) : (decimal n).text = Nat.toDigits 10 n := by
  simp [decimal, text, fractionText, exponentText]

end Numeral

theorem written_toDigits (n : Nat) : Written (.value (.number n)) (Nat.toDigits 10 n) := by
  have hwritten := Written.number (Numeral.valid_decimal n)
  rwa [Numeral.value_decimal, Numeral.text_decimal] at hwritten

mutual

/-- The meaning of a value. -/
def Value.datum : Value → Datum
  | .bool b => .bool b
  | .number n => .number n
  | .text s => .text s
  | .array elements => .array (dataOf elements)
  | .object members => .object (membersOf members)

def dataOf : List Value → List Datum
  | [] => []
  | v :: rest => v.datum :: dataOf rest

def membersOf : List (String × Value) → List (String × Datum)
  | [] => []
  | (name, v) :: rest => (name, v.datum) :: membersOf rest

end

theorem dataOf_eq_map (vs : List Value) : dataOf vs = vs.map Value.datum := by
  induction vs with
  | nil => rfl
  | cons v vs ih => simp [dataOf, ih]

theorem blank_nil : Blank [] :=
  nofun

theorem blank_newline (level : Nat) : Blank (newline level) := by
  intro c hc
  rcases List.mem_cons.mp hc with rfl | hc
  · rfl
  · rw [List.eq_of_mem_replicate hc]
    rfl

theorem written_line {v : Datum} {text tail : List Char} (level : Nat) (h : Written (.value v) text)
    (htail : Blank tail) : Written (.item v) (newline level ++ (text ++ tail)) :=
  .item (blank_newline level) h htail

/-- A member is laid out with one blank behind the colon. -/
theorem written_memberLine {v : Datum} {text tail : List Char} (level : Nat) (name : String)
    (h : Written (.value v) text) (htail : Blank tail) :
    Written (.member (name, v))
      (newline level ++ (textLiteral name ++ (':' :: ' ' :: (text ++ tail)))) := by
  have hitem : Written (.item v) ([' '] ++ (text ++ tail)) := .item (by decide) h htail
  have hmember := Written.member (blank_newline level) (spellsAll_escape name.toList) blank_nil
    hitem
  simpa [textLiteral] using hmember

mutual

theorem Value.written_layout (level : Nat) :
    ∀ v : Value, Written (.value v.datum) (v.layout level)
  | .bool true => .true
  | .bool false => .false
  | .number n => written_toDigits n
  | .text s => written_textLiteral s
  | .array [] => .emptyArray blank_nil
  | .array (v :: rest) => by
      have hitems := written_elements (level + 1) (blank_newline level) rest
        (v.written_layout (level + 1))
      simpa [Value.layout, Value.datum, dataOf] using Written.array hitems
  | .object [] => .emptyObject blank_nil
  | .object ((name, v) :: rest) => by
      have hmembers := written_members (level + 1) (blank_newline level) rest name
        (v.written_layout (level + 1))
      simpa [Value.layout, Value.datum, membersOf] using Written.object hmembers

theorem written_elements (level : Nat) {tail : List Char} (htail : Blank tail) :
    ∀ (rest : List Value) {d : Datum} {text : List Char}, Written (.value d) text →
      Written (.items (d :: dataOf rest))
        (newline level ++ (text ++ (layoutElements level rest ++ tail)))
  | [], _, _, h => .lastItem (written_line level h htail)
  | v :: rest, _, _, h => by
      have hline := written_line level h blank_nil
      have hrest := written_elements level htail rest (v.written_layout level)
      simpa [layoutElements, dataOf] using Written.moreItems hline hrest

theorem written_members (level : Nat) {tail : List Char} (htail : Blank tail) :
    ∀ (rest : List (String × Value)) (name : String) {d : Datum} {text : List Char},
      Written (.value d) text →
      Written (.members ((name, d) :: membersOf rest))
        (newline level ++ (textLiteral name ++ (':' :: ' ' ::
          (text ++ (layoutMembers level rest ++ tail)))))
  | [], name, _, _, h => .lastMember (written_memberLine level name h htail)
  | (next, v) :: rest, name, _, _, h => by
      have hline := written_memberLine level name h blank_nil
      have hrest := written_members level htail rest next (v.written_layout level)
      simpa [layoutMembers, membersOf] using Written.moreMembers hline hrest

end

end NamingLint.Json
