import Mathlib.Data.List.Sort
import NamingLint.Proofs.PathOrder

/-!
Arranging as a law. The sort is stable, so an arranged list holds of every path the first spelling
that the given list has, and an ordered list is determined by which spelling it holds of each path.
Arranging in parts and arranging again therefore change nothing.
-/

namespace NamingLint

namespace Path

theorem same_comm (p q : Path) : p.same q = q.same p := by
  simp [same, eq_comm]

theorem same_of_components {p q r : Path} (h : q.components = r.components) :
    p.same q = p.same r := by
  simp [same, h]

theorem le_of_same {p q r : Path} (hq : p.same q = true) (hr : p.same r = true) :
    q.le r = true := by
  rw [same_iff] at hq hr
  simpa [le, ← hq, ← hr] using lexLe_total Component.le_total p.components p.components

end Path

namespace Discovery

instance : Std.Irrefl Before where
  irrefl _ h := h.components_ne rfl

instance : Std.Antisymm Before where
  antisymm a b hab hba := by
    obtain ⟨hle, hdiff⟩ := hab
    rw [Path.same_of_le hle hba.1] at hdiff
    cases hdiff

/-- The sort leaves the spellings of one path in the order in which they come. -/
theorem filter_mergeSort (paths : List Path) (p : Path) :
    (paths.mergeSort Path.le).filter p.same = paths.filter p.same := by
  have halike : (paths.filter p.same).Pairwise fun a b => a.le b = true := by
    refine List.pairwise_iff_forall_sublist.mpr fun {a b} hsub => ?_
    have ha : a ∈ paths.filter p.same := hsub.subset (by simp)
    have hb : b ∈ paths.filter p.same := hsub.subset (by simp)
    exact Path.le_of_same (List.mem_filter.mp ha).2 (List.mem_filter.mp hb).2
  have hsub : (paths.filter p.same).Sublist (paths.mergeSort Path.le) :=
    List.sublist_mergeSort Path.le_trans Path.le_total halike List.filter_sublist
  have hsub : (paths.filter p.same).Sublist ((paths.mergeSort Path.le).filter p.same) := by
    simpa using hsub.filter p.same
  have hperm := (List.mergeSort_perm paths Path.le).filter p.same
  exact (hsub.eq_of_length hperm.length_eq.symm).symm

theorem find?_mergeSort (paths : List Path) (p : Path) :
    (paths.mergeSort Path.le).find? p.same = paths.find? p.same := by
  rw [← List.head?_filter, filter_mergeSort, List.head?_filter]

/-- A spelling that is dropped is not the first one of its path. -/
theorem find?_dropRepeats (paths : List Path) (p : Path) :
    (dropRepeats paths).find? p.same = paths.find? p.same := by
  fun_induction dropRepeats paths with
  | case1 | case2 => rfl
  | case3 a b rest hsame ih =>
      have hab := Path.same_of_components (p := p) ((Path.same_iff a b).mp hsame)
      rw [ih]
      cases ha : p.same a with
      | true => simp [ha]
      | false => simp [ha, hab ▸ ha]
  | case4 a b rest _ ih =>
      rw [List.find?_cons, ih, ← List.find?_cons]

theorem find?_arrange (paths : List Path) (p : Path) :
    (arrange paths).find? p.same = paths.find? p.same := by
  rw [arrange, find?_dropRepeats, find?_mergeSort]

theorem mem_iff_find? {paths : List Path} (h : paths.Pairwise Before) (p : Path) :
    p ∈ paths ↔ paths.find? p.same = some p := by
  constructor
  · intro hp
    have hself : p.same p = true := (Path.same_iff p p).mpr rfl
    obtain ⟨before, after, rfl⟩ := List.append_of_mem hp
    obtain ⟨-, -, hbefore⟩ := List.pairwise_append.mp h
    refine List.find?_eq_some_iff_append.mpr ⟨hself, before, after, rfl, fun q hq => ?_⟩
    have hdiff := (hbefore q hq p List.mem_cons_self).2
    rw [Path.same_comm p q, hdiff]
    rfl
  · exact List.mem_of_find?_eq_some

/-- Two ordered lists are the same when they hold the same spelling of every path. -/
theorem eq_of_find?_eq {a b : List Path} (ha : a.Pairwise Before) (hb : b.Pairwise Before)
    (h : ∀ p : Path, a.find? p.same = b.find? p.same) : a = b := by
  refine ha.eq_of_mem_iff hb fun p => ?_
  rw [mem_iff_find? ha, mem_iff_find? hb, h p]

theorem arrange_eq {paths ordered : List Path} (hordered : ordered.Pairwise Before)
    (h : ∀ p : Path, paths.find? p.same = ordered.find? p.same) : arrange paths = ordered :=
  eq_of_find?_eq (pairwise_arrange paths) hordered fun p => (find?_arrange paths p).trans (h p)

theorem arrange_of_pairwise {paths : List Path} (h : paths.Pairwise Before) :
    arrange paths = paths :=
  arrange_eq h fun _ => rfl

theorem arrange_append (a b : List Path) :
    arrange (arrange a ++ arrange b) = arrange (a ++ b) := by
  refine arrange_eq (pairwise_arrange _) fun p => ?_
  rw [find?_arrange, List.find?_append, List.find?_append, find?_arrange, find?_arrange]

/-- Among sorted paths it is enough to look at neighbours to drop everything that is there
already. -/
theorem dropRepeats_eq_eraseDupsBy (paths : List Path)
    (sorted : paths.Pairwise fun a b => a.le b = true) :
    dropRepeats paths = paths.eraseDupsBy Path.same := by
  fun_induction dropRepeats paths with
  | case1 | case2 => rfl
  | case3 a b rest hsame ih =>
      obtain ⟨ha, hrest⟩ := List.pairwise_cons.mp sorted
      have hba : b.same a = true := (Path.same_comm a b).symm.trans hsame
      rw [ih (List.pairwise_cons.mpr
        ⟨fun c hc => ha c (List.mem_cons_of_mem b hc), (List.pairwise_cons.mp hrest).2⟩)]
      simp [List.eraseDupsBy_cons, hba]
  | case4 a b rest hdiff ih =>
      have hkept : (b :: rest).filter (fun c => decide (c.same a = false)) = b :: rest := by
        refine List.filter_eq_self.mpr fun c hc => decide_eq_true ?_
        exact (Path.same_comm c a).trans (differs_of_sorted sorted hdiff c hc)
      rw [ih (List.pairwise_cons.mp sorted).2, List.eraseDupsBy_cons (a := a), hkept]

theorem arrange_eq_eraseDupsBy (paths : List Path) :
    arrange paths = (paths.mergeSort Path.le).eraseDupsBy Path.same :=
  dropRepeats_eq_eraseDupsBy _ (List.pairwise_mergeSort Path.le_trans Path.le_total paths)

end Discovery
end NamingLint
