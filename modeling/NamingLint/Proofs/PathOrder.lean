import NamingLint.Discovery

/-!
The order of paths and the arrangement by it. Component by component the order is total, and it
identifies exactly the paths with equal components; so sorting brings such paths together, and
keeping the first of each run leaves one of every kind.
-/

namespace NamingLint

section Lexicographic

variable {α : Type} [DecidableEq α] {le : α → α → Bool}

theorem lexLe_cons (a b : α) (as bs : List α) :
    lexLe le (a :: as) (b :: bs) = true ↔
      (a ≠ b ∧ le a b = true) ∨ (a = b ∧ lexLe le as bs = true) := by
  by_cases h : a = b
  · simp [lexLe, h]
  · simp [lexLe, h]

theorem lexLe_total (total : ∀ a b, le a b = true ∨ le b a = true) (as bs : List α) :
    lexLe le as bs = true ∨ lexLe le bs as = true := by
  induction as generalizing bs with
  | nil => exact .inl rfl
  | cons a as ih =>
      cases bs with
      | nil => exact .inr rfl
      | cons b bs =>
          simp only [lexLe_cons]
          by_cases h : a = b
          · exact (ih bs).imp (fun hle => .inr ⟨h, hle⟩) (fun hle => .inr ⟨h.symm, hle⟩)
          · exact (total a b).imp (fun hle => .inl ⟨h, hle⟩) (fun hle => .inl ⟨Ne.symm h, hle⟩)

variable (antisymm : ∀ a b, le a b = true → le b a = true → a = b)

include antisymm

theorem lexLe_antisymm {as bs : List α} (hab : lexLe le as bs = true)
    (hba : lexLe le bs as = true) : as = bs := by
  induction as generalizing bs with
  | nil =>
      cases bs with
      | nil => rfl
      | cons b bs => cases hba
  | cons a as ih =>
      cases bs with
      | nil => cases hab
      | cons b bs =>
          rcases (lexLe_cons a b as bs).mp hab with ⟨hne, hle⟩ | ⟨rfl, hfirst⟩
          · rcases (lexLe_cons b a bs as).mp hba with ⟨-, hge⟩ | ⟨heq, -⟩
            · exact absurd (antisymm a b hle hge) hne
            · exact absurd heq.symm hne
          · rcases (lexLe_cons a a bs as).mp hba with ⟨hne, -⟩ | ⟨-, hrest⟩
            · exact absurd rfl hne
            · rw [ih hfirst hrest]

theorem lexLe_trans (trans : ∀ a b c, le a b = true → le b c = true → le a c = true)
    {as bs cs : List α} (hab : lexLe le as bs = true) (hbc : lexLe le bs cs = true) :
    lexLe le as cs = true := by
  induction as generalizing bs cs with
  | nil => rfl
  | cons a as ih =>
      cases bs with
      | nil => cases hab
      | cons b bs =>
          cases cs with
          | nil => cases hbc
          | cons c cs =>
              rw [lexLe_cons] at hab hbc ⊢
              rcases hab with ⟨hne, hle⟩ | ⟨rfl, hab⟩
              · refine .inl ?_
                rcases hbc with ⟨hne', hle'⟩ | ⟨rfl, -⟩
                · refine ⟨?_, trans a b c hle hle'⟩
                  rintro rfl
                  exact hne (antisymm a b hle hle')
                · exact ⟨hne, hle⟩
              · rcases hbc with ⟨hne, hle⟩ | ⟨rfl, hbc⟩
                · exact .inl ⟨hne, hle⟩
                · exact .inr ⟨rfl, ih hab hbc⟩

end Lexicographic

namespace Path

namespace Component

theorem octet_antisymm (x y : UInt8) (hxy : decide (x ≤ y) = true) (hyx : decide (y ≤ x) = true) :
    x = y :=
  UInt8.le_antisymm (of_decide_eq_true hxy) (of_decide_eq_true hyx)

theorem octet_trans (x y z : UInt8) (hxy : decide (x ≤ y) = true) (hyz : decide (y ≤ z) = true) :
    decide (x ≤ z) = true :=
  decide_eq_true (UInt8.le_trans (of_decide_eq_true hxy) (of_decide_eq_true hyz))

theorem octet_total (x y : UInt8) : decide (x ≤ y) = true ∨ decide (y ≤ x) = true := by
  simpa using UInt8.le_total x y

theorem le_total (a b : Component) : a.le b = true ∨ b.le a = true := by
  cases a <;> cases b <;> simp [le]
  exact lexLe_total octet_total _ _

theorem le_antisymm (a b : Component) (hab : a.le b = true) (hba : b.le a = true) : a = b := by
  cases a <;> cases b <;> simp [le] at hab hba ⊢
  exact congrArg NativeText.mk (lexLe_antisymm octet_antisymm hab hba)

theorem le_trans (a b c : Component) (hab : a.le b = true) (hbc : b.le c = true) :
    a.le c = true := by
  cases a <;> cases b <;> cases c <;> simp [le] at hab hbc ⊢
  exact lexLe_trans octet_antisymm octet_trans hab hbc

end Component

theorem same_iff (a b : Path) : a.same b = true ↔ a.components = b.components := by
  simp [same]

theorem le_total (a b : Path) : (a.le b || b.le a) = true := by
  simpa [le] using lexLe_total Component.le_total a.components b.components

theorem le_trans (a b c : Path) (hab : a.le b = true) (hbc : b.le c = true) : a.le c = true :=
  lexLe_trans Component.le_antisymm Component.le_trans hab hbc

theorem same_of_le {a b : Path} (hab : a.le b = true) (hba : b.le a = true) :
    a.same b = true :=
  (same_iff a b).mpr (lexLe_antisymm Component.le_antisymm hab hba)

end Path

namespace Discovery

/-- Strictly before: in order, and with other components. -/
def Before (a b : Path) : Prop :=
  a.le b = true ∧ a.same b = false

theorem Before.components_ne {a b : Path} (h : Before a b) : a.components ≠ b.components := by
  intro heq
  cases h.2.symm.trans ((Path.same_iff a b).mpr heq)

theorem dropRepeats_subset (paths : List Path) : dropRepeats paths ⊆ paths := by
  fun_induction dropRepeats paths with
  | case1 => exact List.Subset.refl _
  | case2 path => exact List.Subset.refl _
  | case3 a b rest _ ih =>
      intro p hp
      rcases List.mem_cons.mp (ih hp) with rfl | hp
      · exact List.mem_cons_self
      · exact List.mem_cons_of_mem _ (List.mem_cons_of_mem _ hp)
  | case4 a b rest _ ih => exact List.cons_subset_cons a ih

/-- Every path that is dropped leaves one with the same components. -/
theorem exists_mem_dropRepeats (paths : List Path) :
    ∀ p ∈ paths, ∃ q ∈ dropRepeats paths, q.components = p.components := by
  fun_induction dropRepeats paths with
  | case1 => nofun
  | case2 path => exact fun p hp => ⟨p, hp, rfl⟩
  | case3 a b rest hsame ih =>
      intro p hp
      rcases List.mem_cons.mp hp with rfl | hp
      · exact ih p List.mem_cons_self
      rcases List.mem_cons.mp hp with rfl | hp
      · rw [← (Path.same_iff a p).mp hsame]
        exact ih a List.mem_cons_self
      · exact ih p (List.mem_cons_of_mem _ hp)
  | case4 a b rest _ ih =>
      intro p hp
      rcases List.mem_cons.mp hp with rfl | hp
      · exact ⟨p, List.mem_cons_self, rfl⟩
      · obtain ⟨q, hq, heq⟩ := ih p hp
        exact ⟨q, List.mem_cons_of_mem _ hq, heq⟩

/-- In a sorted list a path that differs from its neighbour differs from all that come after. -/
theorem differs_of_sorted {a b : Path} {rest : List Path}
    (sorted : (a :: b :: rest).Pairwise fun a b => a.le b = true) (hdiff : a.same b ≠ true) :
    ∀ c ∈ b :: rest, a.same c = false := by
  intro c hc
  obtain ⟨ha, hrest⟩ := List.pairwise_cons.mp sorted
  have hbc : b.le c = true := by
    rcases List.mem_cons.mp hc with rfl | hc
    · simpa using Path.le_total c c
    · exact (List.pairwise_cons.mp hrest).1 c hc
  -- A path that is the same as `a` would press `b` between the two.
  refine Bool.eq_false_iff.mpr fun hsame => hdiff ?_
  have hba : b.le a = true := by
    have hcomponents := (Path.same_iff a c).mp hsame
    simpa [Path.le, hcomponents] using hbc
  exact Path.same_of_le (ha b List.mem_cons_self) hba

theorem pairwise_dropRepeats (paths : List Path)
    (sorted : paths.Pairwise fun a b => a.le b = true) :
    (dropRepeats paths).Pairwise Before := by
  fun_induction dropRepeats paths with
  | case1 => exact .nil
  | case2 path => exact List.pairwise_singleton _ path
  | case3 a b rest _ ih =>
      obtain ⟨ha, hrest⟩ := List.pairwise_cons.mp sorted
      exact ih (List.pairwise_cons.mpr
        ⟨fun c hc => ha c (List.mem_cons_of_mem b hc), (List.pairwise_cons.mp hrest).2⟩)
  | case4 a b rest hdiff ih =>
      obtain ⟨ha, hrest⟩ := List.pairwise_cons.mp sorted
      refine List.pairwise_cons.mpr ⟨fun c hc => ?_, ih hrest⟩
      have hc := dropRepeats_subset _ hc
      exact ⟨ha c hc, differs_of_sorted sorted hdiff c hc⟩

theorem pairwise_arrange (paths : List Path) : (arrange paths).Pairwise Before :=
  pairwise_dropRepeats _ (List.pairwise_mergeSort Path.le_trans Path.le_total paths)

theorem mem_of_mem_arrange {paths : List Path} {p : Path} (h : p ∈ arrange paths) : p ∈ paths :=
  List.mem_mergeSort.mp (dropRepeats_subset _ h)

theorem exists_mem_arrange {paths : List Path} {p : Path} (h : p ∈ paths) :
    ∃ q ∈ arrange paths, q.components = p.components :=
  exists_mem_dropRepeats _ p (List.mem_mergeSort.mpr h)

end Discovery
end NamingLint
