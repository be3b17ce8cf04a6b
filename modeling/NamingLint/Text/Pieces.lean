/-!
Lists cut at a separator. There is one piece more than there are separators, and the pieces with the
separators between them are the list.
-/

namespace NamingLint.Text

variable {α : Type} [DecidableEq α]

def pieces (separator : α) : List α → List (List α)
  | [] => [[]]
  | x :: rest =>
      if x = separator then [] :: pieces separator rest
      else match pieces separator rest with
        | piece :: others => (x :: piece) :: others
        | [] => [[x]]

theorem pieces_ne_nil (separator : α) (l : List α) : pieces separator l ≠ [] := by
  cases l with
  | nil => simp [pieces]
  | cons x rest =>
      simp only [pieces]
      split
      · simp
      · split <;> simp

theorem pieces_separator (separator : α) (rest : List α) :
    pieces separator (separator :: rest) = [] :: pieces separator rest := by
  simp [pieces]

theorem length_pieces (separator : α) (l : List α) :
    (pieces separator l).length = l.count separator + 1 := by
  induction l with
  | nil => simp [pieces]
  | cons x rest ih =>
      by_cases h : x = separator
      · subst h
        simp [pieces_separator, ih]
      · have hne := pieces_ne_nil separator rest
        simp only [pieces, h, if_false]
        cases hp : pieces separator rest with
        | nil => exact absurd hp hne
        | cons piece others =>
            rw [hp] at ih
            simpa [List.count_cons, h] using ih

end NamingLint.Text
