import NamingLint.Proofs.Entries
import NamingLint.Proofs.PathResolution

/-!
Spellings, components and places. The path of an entry has the components of its directory and
the name, and it leads to the name below the place of the directory. Two paths with the same
components lead to the same place if they lead anywhere; a slash at the end can still make one of
them fail.
-/

namespace NamingLint

namespace Text

variable {α : Type} [DecidableEq α]

theorem pieces_of_notMem (separator : α) (l : List α) (h : separator ∉ l) :
    pieces separator l = [l] := by
  induction l with
  | nil => rfl
  | cons x rest ih =>
      obtain ⟨hx, hrest⟩ := not_or.mp (mt List.mem_cons.mpr h)
      simp [pieces, Ne.symm hx, ih hrest]

theorem pieces_append_separator (separator : α) (a b : List α) :
    pieces separator (a ++ separator :: b) = pieces separator a ++ pieces separator b := by
  induction a with
  | nil => simp [pieces]
  | cons x a ih =>
      simp only [List.cons_append, pieces, ih]
      split
      · rfl
      · cases h : pieces separator a with
        | nil => exact absurd h (pieces_ne_nil separator a)
        | cons piece others => rfl

end Text

namespace Path

theorem segmentsOf_ne_nil (text : NativeText) : segmentsOf text ≠ [] := by
  simp [segmentsOf, Text.pieces_ne_nil]

theorem segmentsOf_of_notMem {text : NativeText} (h : slash ∉ text.octets) :
    segmentsOf text = [text] := by
  simp [segmentsOf, Text.pieces_of_notMem _ _ h]

theorem segmentsOf_append_slash (a b : NativeText) :
    segmentsOf (a ++ "/" ++ b) = segmentsOf a ++ segmentsOf b := by
  have hoctets : (a ++ "/" ++ b).octets = a.octets ++ slash :: b.octets :=
    List.append_assoc a.octets [slash] b.octets
  rw [segmentsOf, hoctets, Text.pieces_append_separator, List.map_append, segmentsOf, segmentsOf]

theorem join_of_slash {directory : Path} {init : List UInt8}
    (h : directory.spelling = ⟨init⟩ ++ "/") (name : NativeText) :
    directory.join name = ⟨directory.spelling ++ name⟩ := by
  have hlast : (init ++ [slash]).getLast? = some slash := List.getLast?_concat
  have hspelling : directory.spelling.octets = init ++ [slash] := congrArg NativeText.octets h
  simp [join, hspelling, hlast]

theorem join_of_getLast? {directory : Path} {last : UInt8}
    (h : directory.spelling.octets.getLast? = some last) (hslash : last ≠ slash)
    (name : NativeText) : directory.join name = ⟨directory.spelling ++ "/" ++ name⟩ := by
  simp [join, h, hslash]

/-- A joined path has the segments of its directory and the name; an empty segment at the end of
the directory gives way. -/
theorem segments_join {directory : Path} {name : NativeText} (hdir : directory.spelling ≠ "")
    (hname : ProperName name) :
    ∃ init, init ≠ [] ∧ (directory.segments = init ∨ directory.segments = init ++ [.ofText ""]) ∧
      (directory.join name).segments = init ++ [name] := by
  have hsegments (text : NativeText) :
      segmentsOf (text ++ "/" ++ name) = segmentsOf text ++ [name] := by
    rw [segmentsOf_append_slash, segmentsOf_of_notMem hname.noSlash]
  obtain ⟨⟨octets⟩⟩ := directory
  rcases List.eq_nil_or_concat octets with rfl | ⟨init, last, rfl⟩
  · exact absurd rfl hdir
  rw [List.concat_eq_append]
  by_cases hslash : last = slash
  · subst hslash
    refine ⟨segmentsOf ⟨init⟩, segmentsOf_ne_nil _, .inr ?_, ?_⟩
    · have hempty : (⟨init ++ [slash]⟩ : NativeText) = ⟨init⟩ ++ "/" ++ "" :=
        congrArg NativeText.mk (List.append_nil _).symm
      rw [segments, hempty, segmentsOf_append_slash]
      rfl
    · have hjoin : Path.join ⟨⟨init ++ [slash]⟩⟩ name = ⟨⟨init⟩ ++ "/" ++ name⟩ :=
        join_of_slash rfl name
      rw [hjoin]
      exact hsegments ⟨init⟩
  · refine ⟨segmentsOf ⟨init ++ [last]⟩, segmentsOf_ne_nil _, .inl rfl, ?_⟩
    rw [join_of_getLast? List.getLast?_concat hslash, segments, hsegments]

theorem startsAtRoot_join {directory : Path} (name : NativeText) (hdir : directory.spelling ≠ "") :
    startsAtRoot (directory.join name).spelling = startsAtRoot directory.spelling := by
  obtain ⟨⟨octets⟩⟩ := directory
  cases octets with
  | nil => exact absurd rfl hdir
  | cons octet rest =>
      unfold join startsAtRoot
      split <;> simp

theorem join_spelling_ne {directory : Path} {name : NativeText} (hdir : directory.spelling ≠ "") :
    (directory.join name).spelling ≠ "" := by
  obtain ⟨⟨octets⟩⟩ := directory
  cases octets with
  | nil => exact absurd rfl hdir
  | cons octet rest =>
      unfold join
      split <;> exact fun h => List.cons_ne_nil _ _ (congrArg NativeText.octets h)

theorem Component.ofSegment?_name {name : NativeText} (hname : ProperName name) :
    ofSegment? name = some (.name name) := by
  simp [ofSegment?, hname.nonempty, hname.notCurrent, hname.notParent]

theorem components_join {directory : Path} {name : NativeText} (hdir : directory.spelling ≠ "")
    (hname : ProperName name) :
    (directory.join name).components = directory.components ++ [.name name] := by
  obtain ⟨init, hne, hsegments, hjoin⟩ := segments_join hdir hname
  have hhead : (directory.join name).segments.head? = directory.segments.head? := by
    obtain ⟨s, init, rfl⟩ := List.exists_cons_of_ne_nil hne
    rcases hsegments with h | h <;> rw [hjoin, h] <;> rfl
  have hrest : (directory.join name).segments.filterMap Component.ofSegment? =
      directory.segments.filterMap Component.ofSegment? ++ [.name name] := by
    have hempty : Component.ofSegment? "" = none := if_pos (.inl rfl)
    rcases hsegments with h | h <;> rw [hjoin, h] <;>
      simp [List.filterMap_append, Component.ofSegment?_name hname, hempty]
  simp only [components, startsAtRoot_join name hdir, hhead, hrest]
  split
  · rfl
  · split <;> rfl

end Path

namespace FileSystem

variable {fs : FileSystem}

namespace Leads

theorem silent {n m : Nat} {place there : Location} {segment : NativeText}
    (h : Leads fs n place [segment] m there) (hsegment : segment = "" ∨ segment = ".") :
    m = n ∧ there = place := by
  cases h with
  | stay _ _ h | halt _ h => cases h; exact ⟨rfl, rfl⟩
  | up _ _ => simp at hsegment
  | down _ hspeaks _ _ _ _ | follow _ hspeaks _ _ _ => exact absurd hsegment hspeaks

/-- Segments that say nothing can be left out of a route. -/
theorem speaking {n m : Nat} {place there : Location} {segments : List NativeText}
    (h : Leads fs n place segments m there) :
    Leads fs n place (segments.filter fun s : NativeText => s ≠ "" ∧ s ≠ ".") m there := by
  induction segments generalizing n place with
  | nil => exact h
  | cons segment rest ih =>
      obtain ⟨k, between, hfirst, hrest⟩ := split (a := [segment]) h
      by_cases hsegment : segment = "" ∨ segment = "."
      · obtain ⟨rfl, rfl⟩ := hfirst.silent hsegment
        have hdrop : ¬ (segment ≠ "" ∧ segment ≠ ".") := fun hkeep =>
          hsegment.elim hkeep.1 hkeep.2
        rw [List.filter_cons_of_neg (by simp [hdrop])]
        exact ih hrest
      · have hkeep : segment ≠ "" ∧ segment ≠ "." := not_or.mp hsegment
        rw [List.filter_cons_of_pos (by simp [hkeep])]
        exact hfirst.append (ih hrest)

/-- A route of at least one segment ends at a file or a directory. -/
theorem entry? {n m : Nat} {place there : Location} {segments : List NativeText}
    (h : Leads fs n place segments m there) (hne : segments ≠ []) :
    ∃ entry, fs.entry? there = some entry ∧ ∀ target, entry ≠ .link target := by
  induction h with
  | here _ _ => exact absurd rfl hne
  | @stay n m place there entries segment rest hdir _ h ih =>
      cases rest with
      | nil => cases h; exact ⟨_, hdir, nofun⟩
      | cons _ _ => exact ih (List.cons_ne_nil _ _)
  | @halt n m place there rest hsealed h ih =>
      cases rest with
      | nil => cases h; exact ⟨_, hsealed, nofun⟩
      | cons _ _ => exact ih (List.cons_ne_nil _ _)
  | @up n m place there entries rest hdir h ih =>
      cases rest with
      | nil =>
          cases h
          obtain ⟨above, habove⟩ := entry?_dropLast hdir
          exact ⟨_, habove, nofun⟩
      | cons _ _ => exact ih (List.cons_ne_nil _ _)
  | @down n m place there entries segment rest entry hdir _ _ hentry hlink h ih =>
      cases rest with
      | nil =>
          cases h
          exact ⟨entry, (entry?_concat place segment hdir).trans hentry, hlink⟩
      | cons _ _ => exact ih (List.cons_ne_nil _ _)
  | @follow n m place there entries segment target rest _ _ _ _ h ih =>
      exact ih (by simp [Path.segmentsOf_ne_nil])

end Leads

theorem resolve_eq_ok {path : Path} {place : Location} :
    fs.resolve path = .ok place ↔
      path.spelling ≠ "" ∧
        ∃ m, Leads fs linkLimit (start fs.workingDirectory path.spelling) path.segments m place := by
  unfold resolve
  split
  · simp_all
  · rw [resolveWithin_eq_ok]
    simp_all

/-- The entry of a directory that is no link is where its path leads. -/
theorem resolve_join {directory : Path} {name : NativeText} {place : Location}
    {entries : List (NativeText × Entry)} {entry : Entry}
    (hplace : fs.resolve directory = .ok place)
    (hdir : fs.entry? place = some (.directory entries)) (hname : ProperName name)
    (hentry : entries.lookup name = some entry) (hlink : ∀ target, entry ≠ .link target) :
    fs.resolve (directory.join name) = .ok (place ++ [name]) := by
  obtain ⟨hne, m, h⟩ := resolve_eq_ok.mp hplace
  obtain ⟨init, -, hsegments, hjoin⟩ := Path.segments_join hne hname
  have hinit : Leads fs linkLimit (start fs.workingDirectory directory.spelling) init m place := by
    rcases hsegments with hsegments | hsegments
    · exact hsegments ▸ h
    · obtain ⟨k, between, hfirst, hlast⟩ := Leads.split (hsegments ▸ h)
      obtain ⟨rfl, rfl⟩ := hlast.silent (.inl rfl)
      exact hfirst
  have hstart : start fs.workingDirectory (directory.join name).spelling =
      start fs.workingDirectory directory.spelling := by
    simp [start, Path.startsAtRoot_join name hne]
  refine resolve_eq_ok.mpr ⟨Path.join_spelling_ne hne, m, ?_⟩
  rw [hstart, hjoin]
  exact hinit.append
    (.down hdir (by simp [hname.nonempty, hname.notCurrent]) hname.notParent hentry hlink
      (.here m _))

end FileSystem

namespace Path

/-- The components of a path without the one that says where it begins. -/
def spoken (path : Path) : List Component :=
  path.segments.filterMap Component.ofSegment?

theorem components_cases (path : Path) :
    (startsAtRoot path.spelling = true ∧ path.components = .root :: path.spoken) ∨
    (startsAtRoot path.spelling = false ∧
      (path.components = .current :: path.spoken ∨ path.components = path.spoken)) := by
  unfold components
  cases startsAtRoot path.spelling with
  | true => exact .inl ⟨rfl, rfl⟩
  | false =>
      refine .inr ⟨rfl, ?_⟩
      simp only [Bool.false_eq_true, ↓reduceIte]
      split
      · exact .inl rfl
      · exact .inr rfl

theorem spoken_ne_cons (path : Path) (c : Component) (rest : List Component)
    (h : path.spoken = c :: rest) : c ≠ .root ∧ c ≠ .current := by
  have hmem : c ∈ path.spoken := h ▸ List.mem_cons_self
  obtain ⟨s, -, hs⟩ := List.mem_filterMap.mp hmem
  unfold Component.ofSegment? at hs
  split at hs
  · cases hs
  · split at hs <;> obtain rfl := Option.some.inj hs <;> exact ⟨nofun, nofun⟩

/-- Two paths with the same components begin at the same place and name the same things. -/
theorem spoken_of_components {a b : Path} (h : a.components = b.components) :
    startsAtRoot a.spelling = startsAtRoot b.spelling ∧ a.spoken = b.spoken := by
  rcases components_cases a with ⟨ha, hca⟩ | ⟨ha, hca | hca⟩
  · rcases components_cases b with ⟨hb, hcb⟩ | ⟨hb, hcb | hcb⟩ <;> rw [hca, hcb] at h
    · exact ⟨ha.trans hb.symm, (List.cons.inj h).2⟩
    · cases (List.cons.inj h).1
    · exact absurd rfl (spoken_ne_cons b _ _ h.symm).1
  · rcases components_cases b with ⟨hb, hcb⟩ | ⟨hb, hcb | hcb⟩ <;> rw [hca, hcb] at h
    · cases (List.cons.inj h).1
    · exact ⟨ha.trans hb.symm, (List.cons.inj h).2⟩
    · exact absurd rfl (spoken_ne_cons b _ _ h.symm).2
  · rcases components_cases b with ⟨hb, hcb⟩ | ⟨hb, hcb | hcb⟩ <;> rw [hca, hcb] at h
    · exact absurd rfl (spoken_ne_cons a _ _ h).1
    · exact absurd rfl (spoken_ne_cons a _ _ h).2
    · exact ⟨ha.trans hb.symm, h⟩

/-- The segments that a path speaks can be read off its components. -/
theorem speaking_segments (path : Path) :
    (path.segments.filter fun s : NativeText => s ≠ "" ∧ s ≠ ".") = path.spoken.map fun
      | .name text => text
      | .parent => .ofText ".."
      | .root | .current => .ofText "" := by
  unfold spoken
  induction path.segments with
  | nil => rfl
  | cons s rest ih =>
      by_cases hsilent : s = "" ∨ s = "."
      · have hnone : Component.ofSegment? s = none := if_pos hsilent
        have hdrop : ¬ (s ≠ "" ∧ s ≠ ".") := fun hkeep => hsilent.elim hkeep.1 hkeep.2
        simpa only [List.filter_cons, hdrop, decide_false, Bool.false_eq_true, ↓reduceIte,
          List.filterMap_cons, hnone] using ih
      · have hkeep : s ≠ "" ∧ s ≠ "." := not_or.mp hsilent
        by_cases hparent : s = ".."
        · subst hparent
          simpa [Component.ofSegment?] using ih
        · simpa [Component.ofSegment?, hkeep.1, hkeep.2, hparent] using ih

end Path

/-- Paths with the same components that both lead somewhere lead to the same place. -/
theorem FileSystem.resolve_congr {fs : FileSystem} {a b : Path} {there here : Location}
    (h : a.components = b.components) (ha : fs.resolve a = .ok there)
    (hb : fs.resolve b = .ok here) : there = here := by
  obtain ⟨hroot, hspoken⟩ := Path.spoken_of_components h
  obtain ⟨-, m, ha⟩ := resolve_eq_ok.mp ha
  obtain ⟨-, k, hb⟩ := resolve_eq_ok.mp hb
  have ha := resolveWithin_of_leads ha.speaking
  have hb := resolveWithin_of_leads hb.speaking
  rw [Path.speaking_segments] at ha hb
  simp only [start, hroot, hspoken] at ha hb
  exact Except.ok.inj (ha.symm.trans hb)

end NamingLint
