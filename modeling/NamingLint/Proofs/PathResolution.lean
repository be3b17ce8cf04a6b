import NamingLint.FileSystem.Resolve
import NamingLint.Proofs.NativeTexts

/-!
Path resolution by rules. A route leads from a place along segments to another place and says how
many links may still be followed there. Routes are what the resolver finds, they can be cut and
joined at every segment, and segments that say nothing may be left out of them.
-/

namespace NamingLint

namespace FileSystem

variable (fs : FileSystem)

inductive Leads : Nat → Location → List NativeText → Nat → Location → Prop where
  | here (n : Nat) (place : Location) : Leads n place [] n place
  | stay {n m : Nat} {place there : Location} {entries : List (NativeText × Entry)}
      {segment : NativeText} {rest : List NativeText}
      (hdir : fs.entry? place = some (.directory entries))
      (hsegment : segment = "" ∨ segment = ".")
      (h : Leads n place rest m there) : Leads n place (segment :: rest) m there
  | halt {n m : Nat} {place there : Location} {rest : List NativeText}
      (hsealed : fs.entry? place = some .sealedDirectory)
      (h : Leads n place rest m there) : Leads n place ("" :: rest) m there
  | up {n m : Nat} {place there : Location} {entries : List (NativeText × Entry)}
      {rest : List NativeText}
      (hdir : fs.entry? place = some (.directory entries))
      (h : Leads n place.dropLast rest m there) : Leads n place (".." :: rest) m there
  | down {n m : Nat} {place there : Location} {entries : List (NativeText × Entry)}
      {segment : NativeText} {rest : List NativeText} {entry : Entry}
      (hdir : fs.entry? place = some (.directory entries))
      (hsegment : ¬ (segment = "" ∨ segment = ".")) (hparent : segment ≠ "..")
      (hentry : entries.lookup segment = some entry) (hlink : ∀ target, entry ≠ .link target)
      (h : Leads n (place ++ [segment]) rest m there) : Leads n place (segment :: rest) m there
  | follow {n m : Nat} {place there : Location} {entries : List (NativeText × Entry)}
      {segment target : NativeText} {rest : List NativeText}
      (hdir : fs.entry? place = some (.directory entries))
      (hsegment : ¬ (segment = "" ∨ segment = ".")) (hparent : segment ≠ "..")
      (hentry : entries.lookup segment = some (.link target))
      (h : Leads n (start place target) (Path.segmentsOf target ++ rest) m there) :
      Leads (n + 1) place (segment :: rest) m there

variable {fs}

theorem resolveWithin_nil (n : Nat) (place : Location) :
    fs.resolveWithin n place [] = .ok place := by
  cases n <;> rfl

/-- One segment of the resolver, the same at every number of links left. -/
theorem resolveWithin_cons (n : Nat) (place : Location) (segment : NativeText)
    (rest : List NativeText) :
    fs.resolveWithin n place (segment :: rest) =
      match fs.entry? place with
      | some (.directory entries) =>
          if segment = "" ∨ segment = "." then fs.resolveWithin n place rest
          else if segment = ".." then fs.resolveWithin n place.dropLast rest
          else match entries.lookup segment with
            | none => .error .notFound
            | some (.link target) =>
                match n with
                | 0 => .error .tooManyLinks
                | n + 1 =>
                    fs.resolveWithin n (start place target) (Path.segmentsOf target ++ rest)
            | some _ => fs.resolveWithin n (place ++ [segment]) rest
      | some .sealedDirectory =>
          if segment = "" then fs.resolveWithin n place rest else .error .denied
      | some (.file _) | some (.link _) | some .sealedFile | some .device | none =>
          .error .notADirectory := by
  cases n <;> rfl

theorem resolveWithin_of_leads {n m : Nat} {place there : Location} {segments : List NativeText}
    (h : Leads fs n place segments m there) :
    fs.resolveWithin n place segments = .ok there := by
  induction h with
  | here n place => exact resolveWithin_nil n place
  | stay hdir hsegment _ ih => simp only [resolveWithin_cons, hdir, hsegment, ↓reduceIte, ih]
  | halt hsealed _ ih => simp only [resolveWithin_cons, hsealed, ↓reduceIte, ih]
  | up hdir _ ih => simpa [resolveWithin_cons, hdir] using ih
  | @down _ _ _ _ _ _ _ entry hdir hsegment hparent hentry hlink _ ih =>
      simp only [resolveWithin_cons, hdir, hsegment, hparent, hentry, ↓reduceIte]
      cases entry with
      | file _ | directory _ | sealedFile | sealedDirectory | device => exact ih
      | link target => exact absurd rfl (hlink target)
  | follow hdir hsegment hparent hentry _ ih =>
      simp only [resolveWithin_cons, hdir, hsegment, hparent, hentry, ↓reduceIte, ih]

theorem leads_of_resolveWithin {n : Nat} {place there : Location} {segments : List NativeText}
    (h : fs.resolveWithin n place segments = .ok there) :
    ∃ m, Leads fs n place segments m there := by
  induction n using Nat.strongRecOn generalizing place segments with
  | _ n ihn =>
      induction segments generalizing place with
      | nil =>
          rw [resolveWithin_nil] at h
          obtain rfl : place = there := Except.ok.inj h
          exact ⟨n, .here n place⟩
      | cons segment rest ih =>
          rw [resolveWithin_cons] at h
          cases hdir : fs.entry? place with
          | none => simp [hdir] at h
          | some entry =>
              cases entry with
              | file _ | link _ | sealedFile | device => simp [hdir] at h
              | sealedDirectory =>
                  simp only [hdir] at h
                  by_cases hsegment : segment = ""
                  · rw [if_pos hsegment] at h
                    obtain ⟨m, h⟩ := ih h
                    exact ⟨m, hsegment ▸ .halt hdir h⟩
                  · rw [if_neg hsegment] at h
                    cases h
              | directory entries =>
                  simp only [hdir] at h
                  by_cases hsegment : segment = "" ∨ segment = "."
                  · rw [if_pos hsegment] at h
                    obtain ⟨m, h⟩ := ih h
                    exact ⟨m, .stay hdir hsegment h⟩
                  rw [if_neg hsegment] at h
                  by_cases hparent : segment = ".."
                  · rw [if_pos hparent] at h
                    obtain ⟨m, h⟩ := ih h
                    exact ⟨m, hparent ▸ .up hdir h⟩
                  rw [if_neg hparent] at h
                  cases hentry : entries.lookup segment with
                  | none => simp [hentry] at h
                  | some entry =>
                      cases entry with
                      | file _ | directory _ | sealedFile | sealedDirectory | device =>
                          simp only [hentry] at h
                          obtain ⟨m, h⟩ := ih h
                          exact ⟨m, .down hdir hsegment hparent hentry nofun h⟩
                      | link target =>
                          simp only [hentry] at h
                          cases n with
                          | zero => cases h
                          | succ n =>
                              obtain ⟨m, h⟩ := ihn n (Nat.lt_succ_self n) h
                              exact ⟨m, .follow hdir hsegment hparent hentry h⟩

theorem resolveWithin_eq_ok {n : Nat} {place there : Location} {segments : List NativeText} :
    fs.resolveWithin n place segments = .ok there ↔ ∃ m, Leads fs n place segments m there :=
  ⟨leads_of_resolveWithin, fun ⟨_, h⟩ => resolveWithin_of_leads h⟩

namespace Leads

theorem append {n k m : Nat} {place between there : Location} {a b : List NativeText}
    (h : Leads fs n place a k between) (hb : Leads fs k between b m there) :
    Leads fs n place (a ++ b) m there := by
  induction h with
  | here _ _ => exact hb
  | stay hdir hsegment _ ih => exact .stay hdir hsegment (ih hb)
  | halt hsealed _ ih => exact .halt hsealed (ih hb)
  | up hdir _ ih => exact .up hdir (ih hb)
  | down hdir hsegment hparent hentry hlink _ ih =>
      exact .down hdir hsegment hparent hentry hlink (ih hb)
  | follow hdir hsegment hparent hentry _ ih =>
      have hjoined := ih hb
      rw [List.append_assoc] at hjoined
      exact .follow hdir hsegment hparent hentry hjoined

/-- A route can be cut after any of its segments. -/
theorem split {n m : Nat} {place there : Location} {a b : List NativeText}
    (h : Leads fs n place (a ++ b) m there) :
    ∃ k between, Leads fs n place a k between ∧ Leads fs k between b m there := by
  -- On the route and not on `a`: following a link puts the target in front of `a`.
  generalize hs : a ++ b = segments at h
  induction h generalizing a with
  | here n place =>
      obtain ⟨rfl, rfl⟩ := List.append_eq_nil_iff.mp hs
      exact ⟨n, place, .here n place, .here n place⟩
  | @stay n m place there entries segment rest hdir hsegment h ih =>
      cases a with
      | nil =>
          obtain rfl : b = segment :: rest := hs
          exact ⟨n, place, .here n place, .stay hdir hsegment h⟩
      | cons s a =>
          obtain ⟨rfl, rfl⟩ := List.cons.inj hs
          obtain ⟨k, between, ha, hb⟩ := ih rfl
          exact ⟨k, between, .stay hdir hsegment ha, hb⟩
  | @halt n m place there rest hsealed h ih =>
      cases a with
      | nil =>
          obtain rfl : b = .ofText "" :: rest := hs
          exact ⟨n, place, .here n place, .halt hsealed h⟩
      | cons s a =>
          obtain ⟨rfl, rfl⟩ := List.cons.inj hs
          obtain ⟨k, between, ha, hb⟩ := ih rfl
          exact ⟨k, between, .halt hsealed ha, hb⟩
  | @up n m place there entries rest hdir h ih =>
      cases a with
      | nil =>
          obtain rfl : b = .ofText ".." :: rest := hs
          exact ⟨n, place, .here n place, .up hdir h⟩
      | cons s a =>
          obtain ⟨rfl, rfl⟩ := List.cons.inj hs
          obtain ⟨k, between, ha, hb⟩ := ih rfl
          exact ⟨k, between, .up hdir ha, hb⟩
  | @down n m place there entries segment rest entry hdir hsegment hparent hentry hlink h ih =>
      cases a with
      | nil =>
          obtain rfl : b = segment :: rest := hs
          exact ⟨n, place, .here n place, .down hdir hsegment hparent hentry hlink h⟩
      | cons s a =>
          obtain ⟨rfl, rfl⟩ := List.cons.inj hs
          obtain ⟨k, between, ha, hb⟩ := ih rfl
          exact ⟨k, between, .down hdir hsegment hparent hentry hlink ha, hb⟩
  | @follow n m place there entries segment target rest hdir hsegment hparent hentry h ih =>
      cases a with
      | nil =>
          obtain rfl : b = segment :: rest := hs
          exact ⟨n + 1, place, .here _ place, .follow hdir hsegment hparent hentry h⟩
      | cons s a =>
          obtain ⟨rfl, rfl⟩ := List.cons.inj hs
          obtain ⟨k, between, ha, hb⟩ := ih (List.append_assoc _ a b)
          exact ⟨k, between, .follow hdir hsegment hparent hentry ha, hb⟩

end Leads
end FileSystem
end NamingLint
