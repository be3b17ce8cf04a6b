import NamingLint.Command.Run
import NamingLint.Proofs.PathNames

/-!
Texts that are printed one on a line. A line is what stands before a line feed, so the lines of an
output are as many as its line feeds. They are the texts that were printed exactly when no line feed
stands in one of these.
-/

namespace NamingLint.Text

/-- What stands before each line feed; what follows the last one is no line. -/
def printedLines (output : List Char) : List (List Char) :=
  (pieces '\n' output).dropLast

theorem length_printedLines (output : List Char) :
    (printedLines output).length = output.count '\n' := by
  simp [printedLines, length_pieces]

theorem toList_lines_cons (text : String) (texts : List String) :
    (Command.lines (text :: texts)).toList =
      text.toList ++ '\n' :: (Command.lines texts).toList := by
  simp [Command.lines]

/-- Every text brings the line feeds that stand in it and the one at its end. -/
theorem count_lines (texts : List String) :
    (Command.lines texts).toList.count '\n' =
      texts.length + (texts.flatMap String.toList).count '\n' := by
  induction texts with
  | nil => simp [Command.lines]
  | cons text texts ih =>
      rw [toList_lines_cons, List.count_append, List.count_cons_self, ih, List.length_cons,
        List.flatMap_cons, List.count_append]
      omega

theorem pieces_lines {texts : List String} (h : ∀ text ∈ texts, '\n' ∉ text.toList) :
    pieces '\n' (Command.lines texts).toList = texts.map String.toList ++ [[]] := by
  induction texts with
  | nil => simp [Command.lines, pieces]
  | cons text texts ih =>
      obtain ⟨htext, hrest⟩ := List.forall_mem_cons.mp h
      rw [toList_lines_cons, pieces_append_separator, pieces_of_notMem _ _ htext, ih hrest]
      rfl

theorem printedLines_lines {texts : List String} (h : ∀ text ∈ texts, '\n' ∉ text.toList) :
    printedLines (Command.lines texts).toList = texts.map String.toList := by
  rw [printedLines, pieces_lines h, List.dropLast_concat]

theorem printedLines_lines_iff (texts : List String) :
    printedLines (Command.lines texts).toList = texts.map String.toList ↔
      ∀ text ∈ texts, '\n' ∉ text.toList := by
  refine ⟨fun h text htext => ?_, printedLines_lines⟩
  -- A line feed in a text makes more lines than there are texts.
  have hlength := congrArg List.length h
  rw [length_printedLines, count_lines, List.length_map, Nat.add_eq_left] at hlength
  have hnone := List.count_eq_zero.mp hlength
  exact fun hmem => hnone (List.mem_flatMap.mpr ⟨text, htext, hmem⟩)

end NamingLint.Text
