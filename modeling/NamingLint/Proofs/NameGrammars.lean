import NamingLint.Proofs.NamingReports

/-!
The names that the two patterns accept, character by character. Only letters and digits of the basic
Latin alphabet count, and a line feed stands in no name, not even at its end; every other character
may stand between backticks, further backticks among them. What the patterns are used for is not
treated here.
-/

namespace NamingLint.FunctionName

open Text

/-- Two backticks, at the beginning and at the end, and no line feed. -/
structure BacktickName (name : String) : Prop where
  two : 2 ≤ name.toList.length
  opens : name.toList.head? = some '\x60'
  closes : name.toList.getLast? = some '\x60'
  unbroken : '\n' ∉ name.toList

/-- A lower-case letter and then letters, digits and underscores. -/
def UnderscoreName (name : String) : Prop :=
  ∃ first rest, name.toList = first :: rest ∧ ('a' ≤ first ∧ first ≤ 'z') ∧
    ∀ c ∈ rest, ('a' ≤ c ∧ c ≤ 'z') ∨ ('A' ≤ c ∧ c ≤ 'Z') ∨ ('0' ≤ c ∧ c ≤ '9') ∨ c = '_'

theorem matches_backtickName (s : List Char) :
    Pattern.Matches backtickName s ↔ ∃ inner, s = '\x60' :: (inner ++ ['\x60']) ∧ '\n' ∉ inner := by
  simp only [backtickName, Pattern.char, Pattern.matches_seq, Pattern.matches_one,
    Pattern.matches_star_one, beq_iff_eq, bne_iff_ne]
  constructor
  · rintro ⟨_, _, rfl, ⟨_, rfl, rfl⟩, inner, _, rfl, hinner, _, rfl, rfl⟩
    exact ⟨inner, rfl, fun hmem => hinner '\n' hmem rfl⟩
  · rintro ⟨inner, rfl, hinner⟩
    refine ⟨['\x60'], inner ++ ['\x60'], rfl, ⟨_, rfl, rfl⟩, inner, ['\x60'], rfl, ?_, _, rfl, rfl⟩
    intro c hc
    rintro rfl
    exact hinner hc

theorem backtickName_iff (name : String) :
    BacktickName name ↔
      ∃ inner, name.toList = '\x60' :: (inner ++ ['\x60']) ∧ '\n' ∉ inner := by
  constructor
  · intro h
    obtain ⟨two, opens, closes, unbroken⟩ := h
    obtain ⟨rest, hname⟩ := List.head?_eq_some_iff.mp opens
    rw [hname] at two closes unbroken
    obtain ⟨c, tail, rfl⟩ : ∃ c tail, rest = c :: tail :=
      List.exists_cons_of_length_pos (Nat.lt_of_succ_lt_succ two)
    rw [List.getLast?_cons_cons] at closes
    obtain ⟨inner, hinner⟩ := List.getLast?_eq_some_iff.mp closes
    rw [hinner] at hname unbroken
    refine ⟨inner, hname, fun hmem => unbroken ?_⟩
    exact List.mem_cons_of_mem _ (List.mem_append_left _ hmem)
  · intro h
    obtain ⟨inner, hname, hinner⟩ := h
    refine ⟨?_, ?_, ?_, ?_⟩
    · simp [hname]
    · simp [hname]
    · rw [hname, ← List.cons_append, List.getLast?_concat]
    · simp [hname, hinner]

theorem isTestName_iff (name : String) :
    isTestName name = true ↔ BacktickName name ∨ UnderscoreName name := by
  rw [isTestName, Pattern.accepts_iff_matches, testName, Pattern.matches_alt, matches_backtickName,
    ← backtickName_iff, underscoreName, Pattern.matches_word]
  simp only [isLower_iff, Bool.or_eq_true, isLetterOrDigit_iff, beq_iff_eq, or_assoc]
  rfl

theorem OrdinaryName.underscoreName {name : String} (h : OrdinaryName name) :
    UnderscoreName name := by
  obtain ⟨first, rest, hname, hfirst, hrest⟩ := h
  refine ⟨first, rest, hname, hfirst, fun c hc => ?_⟩
  rcases hrest c hc with hlower | hupper | hdigit
  · exact .inl hlower
  · exact .inr (.inl hupper)
  · exact .inr (.inr (.inl hdigit))

theorem UnderscoreName.ordinaryName {name : String} (h : UnderscoreName name)
    (hunderscore : '_' ∉ name.toList) : OrdinaryName name := by
  obtain ⟨first, rest, hname, hfirst, hrest⟩ := h
  refine ⟨first, rest, hname, hfirst, fun c hc => ?_⟩
  rcases hrest c hc with hlower | hupper | hdigit | rfl
  · exact .inl hlower
  · exact .inr (.inl hupper)
  · exact .inr (.inr hdigit)
  · exact absurd (hname ▸ List.mem_cons_of_mem _ hc) hunderscore

theorem UnderscoreName.notMem_newline {name : String} (h : UnderscoreName name) :
    '\n' ∉ name.toList := by
  obtain ⟨first, rest, hname, hfirst, hrest⟩ := h
  rw [hname]
  intro hmem
  rcases List.mem_cons.mp hmem with rfl | hmem
  · exact absurd hfirst (by decide)
  · exact absurd (hrest '\n' hmem) (by decide)

/-- A line feed stands in no name of a test. -/
theorem notMem_newline_of_isTestName {name : String} (h : isTestName name = true) :
    '\n' ∉ name.toList := by
  rcases (isTestName_iff name).mp h with hbacktick | hunderscore
  · exact hbacktick.unbroken
  · exact hunderscore.notMem_newline

theorem isTestName_of_isOrdinaryName {name : String} (h : isOrdinaryName name = true) :
    isTestName name = true :=
  (isTestName_iff name).mpr (.inr ((isOrdinaryName_iff name).mp h).underscoreName)

/-- The names that are accepted in files of either kind. -/
theorem names_accepted :
    (∀ name, isOrdinaryName name = true ↔ OrdinaryName name) ∧
    (∀ name, isTestName name = true ↔ BacktickName name ∨ UnderscoreName name) ∧
    (∀ name, isOrdinaryName name = true → isTestName name = true) ∧
    (∀ name : String, isOrdinaryName (name ++ "\n") = false ∧ isTestName (name ++ "\n") = false) ∧
    (∀ name, isTestName name = true → isOrdinaryName name = false →
      '\x60' ∈ name.toList ∨ '_' ∈ name.toList) := by
  refine ⟨isOrdinaryName_iff, isTestName_iff, fun name => isTestName_of_isOrdinaryName, ?_, ?_⟩
  · intro name
    have htest : isTestName (name ++ "\n") = false := by
      refine Bool.eq_false_iff.mpr fun h => notMem_newline_of_isTestName h ?_
      simp
    exact ⟨Bool.eq_false_iff.mpr fun h => by simp [isTestName_of_isOrdinaryName h] at htest, htest⟩
  · intro name htest hordinary
    rcases (isTestName_iff name).mp htest with hbacktick | hunderscore
    · exact .inl (List.mem_of_mem_head? hbacktick.opens)
    · refine .inr (Decidable.byContradiction fun hmem => ?_)
      have := (isOrdinaryName_iff name).mpr (hunderscore.ordinaryName hmem)
      simp [hordinary] at this

/-- A carriage return and a third backtick between two backticks. -/
theorem names_carriageReturn :
    isTestName "\x60a\x60\r b\x60" = true ∧ isOrdinaryName "\x60a\x60\r b\x60" = false ∧
      ('\x60' ∈ "\x60a\x60\r b\x60".toList ∨ '_' ∈ "\x60a\x60\r b\x60".toList) ∧
      isOrdinaryName "aB1" = true ∧ isTestName "aB1" = true := by
  obtain ⟨-, htest, hordinary, -, hmarked⟩ := names_accepted
  have hname : isTestName "\x60a\x60\r b\x60" = true :=
    (htest _).mpr (.inl ⟨by decide, by decide, by decide, by decide⟩)
  have hnot : isOrdinaryName "\x60a\x60\r b\x60" = false := by decide
  have hplain : isOrdinaryName "aB1" = true := by decide
  exact ⟨hname, hnot, hmarked _ hname hnot, hplain, hordinary _ hplain⟩

end NamingLint.FunctionName
