import Mathlib.Data.List.DropRight
import NamingLint.Proofs.PathNames

/-!
The line in which a text breaks off. Lines are the pieces between line feeds. This one goes on with
whatever follows the text, and before it there is a full line for every line feed of the text.
-/

namespace NamingLint.Text

theorem rtakeWhile_append_of_pos {α : Type} {p : α → Bool} {a b : List α}
    (h : ∀ x ∈ b, p x = true) : (a ++ b).rtakeWhile p = a.rtakeWhile p ++ b := by
  have hreverse : ∀ x ∈ b.reverse, p x = true := fun x hx => h x (List.mem_reverse.mp hx)
  rw [List.rtakeWhile, List.reverse_append, List.takeWhile_append_of_pos hreverse,
    List.reverse_append, List.reverse_reverse, List.rtakeWhile]

/-- What stands behind the last line feed, or all of a text without one. -/
def lastLine (text : List Char) : List Char :=
  text.rtakeWhile (· != '\n')

theorem notMem_lastLine (text : List Char) : '\n' ∉ lastLine text := by
  intro hmem
  have hne : ('\n' != '\n') = true := List.mem_rtakeWhile_imp (p := (· != '\n')) hmem
  exact absurd hne (by decide)

theorem lastLine_suffix (text : List Char) : lastLine text <:+ text :=
  List.rtakeWhile_suffix _ _

theorem lastLine_append {rest : List Char} (h : '\n' ∉ rest) (text : List Char) :
    lastLine (text ++ rest) = lastLine text ++ rest := by
  refine rtakeWhile_append_of_pos fun c hc => bne_iff_ne.mpr ?_
  rintro rfl
  exact h hc

theorem lastLine_newline (text : List Char) : lastLine (text ++ ['\n']) = [] :=
  List.rtakeWhile_concat_neg _ _ _ (by decide)

theorem exists_pieces (separator : Char) (text : List Char) :
    ∃ others, pieces separator text = text.takeWhile (· != separator) :: others := by
  induction text with
  | nil => exact ⟨[], rfl⟩
  | cons c rest ih =>
      obtain ⟨others, hrest⟩ := ih
      by_cases hc : c = separator
      · exact ⟨pieces separator rest, by simp [pieces, hc]⟩
      · exact ⟨others, by simp [pieces, hc, hrest]⟩

theorem flatMap_pieces (separator : Char) (text : List Char) :
    (pieces separator text).flatMap (· ++ [separator]) = text ++ [separator] := by
  induction text with
  | nil => simp [pieces]
  | cons c rest ih =>
      obtain ⟨others, hrest⟩ := exists_pieces separator rest
      rw [hrest] at ih
      by_cases hc : c = separator
      · simp [pieces, hc, hrest, ← ih]
      · simp [pieces, hc, hrest, ← ih]

/-- The lines of a text that goes on: full ones, the one in which the first part breaks off, and
others. -/
theorem exists_fullLines (text rest : List Char) :
    ∃ full others, pieces '\n' (text ++ rest) =
        full ++ (lastLine text ++ rest.takeWhile (· != '\n')) :: others ∧
      full.length = text.count '\n' ∧ full.flatMap (· ++ ['\n']) ++ lastLine text = text := by
  induction text using List.reverseRecOn generalizing rest with
  | nil =>
      obtain ⟨others, hrest⟩ := exists_pieces '\n' rest
      exact ⟨[], others, hrest, rfl, rfl⟩
  | append_singleton text c ih =>
      by_cases hc : c = '\n'
      · subst hc
        obtain ⟨others, hrest⟩ := exists_pieces '\n' rest
        refine ⟨pieces '\n' text, others, ?_, ?_, ?_⟩
        · rw [List.append_assoc, List.singleton_append, pieces_append_separator, hrest,
            lastLine_newline, List.nil_append]
        · rw [length_pieces, List.count_append, List.count_singleton_self]
        · rw [flatMap_pieces, lastLine_newline, List.append_nil]
      · obtain ⟨full, others, hpieces, hlength, hfull⟩ := ih (c :: rest)
        have hsingle : '\n' ∉ [c] := fun h => hc (List.mem_singleton.mp h).symm
        have htake : (c :: rest).takeWhile (· != '\n') = c :: rest.takeWhile (· != '\n') :=
          List.takeWhile_cons_of_pos (bne_iff_ne.mpr hc)
        refine ⟨full, others, ?_, ?_, ?_⟩
        · rw [List.append_assoc, List.singleton_append, hpieces, lastLine_append hsingle, htake,
            List.append_assoc, List.singleton_append]
        · rw [List.count_append, List.count_eq_zero.mpr hsingle, hlength, Nat.add_zero]
        · rw [lastLine_append hsingle, ← List.append_assoc, hfull]

theorem getElem?_pieces_count (text rest : List Char) :
    (pieces '\n' (text ++ rest))[text.count '\n']? =
      some (lastLine text ++ rest.takeWhile (· != '\n')) := by
  obtain ⟨full, others, hpieces, hlength, -⟩ := exists_fullLines text rest
  rw [hpieces, ← hlength, List.getElem?_append_right (Nat.le_refl _), Nat.sub_self]
  rfl

end NamingLint.Text
