import NamingLint.FileSystem.Entry
import NamingLint.FileSystem.Path

/-!
Entries of file systems. In a proper one the names of a directory are different from each other
and can be written in a path; that is what every directory of a real file system satisfies, and
it holds below an entry when it holds of the entry.
-/

namespace NamingLint

/-- A name that a path can speak of: no slash in it, and neither of the two dots. -/
structure ProperName (name : NativeText) : Prop where
  nonempty : name ≠ ""
  notCurrent : name ≠ "."
  notParent : name ≠ ".."
  noSlash : Path.slash ∉ name.octets

namespace Entry

inductive Proper : Entry → Prop where
  | file (octets : List UInt8) : Proper (file octets)
  | link (target : NativeText) : Proper (link target)
  | sealedFile : Proper sealedFile
  | sealedDirectory : Proper sealedDirectory
  | device : Proper device
  | directory {entries : List (NativeText × Entry)}
      (distinct : (entries.map Prod.fst).Nodup)
      (names : ∀ p ∈ entries, ProperName p.1)
      (below : ∀ p ∈ entries, Proper p.2) : Proper (directory entries)

theorem Proper.entries {entries : List (NativeText × Entry)}
    (h : (Entry.directory entries).Proper) :
    (entries.map Prod.fst).Nodup ∧ (∀ p ∈ entries, ProperName p.1) ∧
      ∀ p ∈ entries, p.2.Proper := by
  cases h with
  | directory distinct names below => exact ⟨distinct, names, below⟩

theorem induct {motive : Entry → Prop}
    (file : ∀ octets, motive (.file octets)) (link : ∀ target, motive (.link target))
    (sealedFile : motive .sealedFile) (sealedDirectory : motive .sealedDirectory)
    (device : motive .device)
    (directory : ∀ entries, (∀ p ∈ entries, motive p.2) → motive (.directory entries)) :
    ∀ entry, motive entry
  | .file octets => file octets
  | .link target => link target
  | .sealedFile => sealedFile
  | .sealedDirectory => sealedDirectory
  | .device => device
  | .directory entries => directory entries fun p hp =>
      have := List.sizeOf_lt_of_mem hp
      induct file link sealedFile sealedDirectory device directory p.2
  termination_by entry => sizeOf entry
  decreasing_by
    obtain ⟨name, entry⟩ := p
    simp only [Entry.directory.sizeOf_spec, Prod.mk.sizeOf_spec] at this ⊢
    omega

mutual

def isProper : Entry → Bool
  | file _ | link _ | sealedFile | sealedDirectory | device => true
  | directory entries => decide (entries.map Prod.fst).Nodup && areProper entries

def areProper : List (NativeText × Entry) → Bool
  | [] => true
  | (name, entry) :: rest =>
      decide (name ≠ "" ∧ name ≠ "." ∧ name ≠ ".." ∧ Path.slash ∉ name.octets) && entry.isProper &&
        areProper rest

end

theorem properName_iff (name : NativeText) :
    ProperName name ↔ name ≠ "" ∧ name ≠ "." ∧ name ≠ ".." ∧ Path.slash ∉ name.octets :=
  ⟨fun h => ⟨h.nonempty, h.notCurrent, h.notParent, h.noSlash⟩,
    fun ⟨nonempty, notCurrent, notParent, noSlash⟩ =>
      ⟨nonempty, notCurrent, notParent, noSlash⟩⟩

theorem areProper_iff (entries : List (NativeText × Entry)) :
    areProper entries = true ↔ ∀ p ∈ entries, ProperName p.1 ∧ p.2.isProper = true := by
  induction entries with
  | nil => simp [areProper]
  | cons p rest ih =>
      obtain ⟨name, entry⟩ := p
      rw [areProper, Bool.and_eq_true, Bool.and_eq_true, decide_eq_true_iff, ← properName_iff, ih,
        List.forall_mem_cons]

theorem isProper_iff (entry : Entry) : entry.isProper = true ↔ entry.Proper := by
  induction entry using induct with
  | file octets => exact iff_of_true rfl (.file octets)
  | link target => exact iff_of_true rfl (.link target)
  | sealedFile => exact iff_of_true rfl .sealedFile
  | sealedDirectory => exact iff_of_true rfl .sealedDirectory
  | device => exact iff_of_true rfl .device
  | directory entries ih =>
      rw [isProper, Bool.and_eq_true, decide_eq_true_iff, areProper_iff]
      constructor
      · intro h
        obtain ⟨distinct, hbelow⟩ := h
        exact .directory distinct (fun p hp => (hbelow p hp).1)
          fun p hp => (ih p hp).mp (hbelow p hp).2
      · rintro h
        obtain ⟨distinct, hnames, hbelow⟩ := h.entries
        exact ⟨distinct, fun p hp => ⟨hnames p hp, (ih p hp).mpr (hbelow p hp)⟩⟩

instance (entry : Entry) : Decidable entry.Proper :=
  decidable_of_iff _ (isProper_iff entry)

theorem lookup_eq_some_of_mem {entries : List (NativeText × Entry)} {name : NativeText}
    {entry : Entry} (distinct : (entries.map Prod.fst).Nodup) (h : (name, entry) ∈ entries) :
    entries.lookup name = some entry := by
  induction entries with
  | nil => cases h
  | cons p rest ih =>
      obtain ⟨hnew, hrest⟩ := List.nodup_cons.mp distinct
      rcases List.mem_cons.mp h with rfl | hmem
      · simp
      · have hne : name ≠ p.1 := fun heq => hnew (heq ▸ List.mem_map_of_mem hmem)
        obtain ⟨other, old⟩ := p
        rw [List.lookup_cons, beq_eq_false_iff_ne.mpr hne]
        exact ih hrest hmem

theorem mem_of_lookup_eq_some {entries : List (NativeText × Entry)} {name : NativeText}
    {entry : Entry} (h : entries.lookup name = some entry) : (name, entry) ∈ entries := by
  obtain ⟨before, after, rfl, -⟩ := List.lookup_eq_some_iff.mp h
  simp

@[simp] theorem get?_nil (entry : Entry) : entry.get? [] = some entry := by
  cases entry <;> rfl

/-- An entry that has something below it is a directory. -/
theorem get?_cons_eq_some {entry there : Entry} {name : NativeText} {location : Location} :
    entry.get? (name :: location) = some there ↔
      ∃ entries child, entry = directory entries ∧ entries.lookup name = some child ∧
        child.get? location = some there := by
  cases entry with
  | file _ | link _ | sealedFile | sealedDirectory | device => simp [Entry.get?]
  | directory entries =>
      simp only [Entry.get?]
      cases hlookup : entries.lookup name <;> simp [hlookup]

theorem get?_append (a b : Location) (entry : Entry) :
    entry.get? (a ++ b) = (entry.get? a).bind fun there => there.get? b := by
  induction a generalizing entry with
  | nil => simp
  | cons name a ih =>
      cases entry with
      | file _ | link _ | sealedFile | sealedDirectory | device => rfl
      | directory entries =>
          simp only [List.cons_append, get?]
          cases entries.lookup name with
          | none => rfl
          | some below => exact ih below

theorem Proper.get? {entry there : Entry} {location : Location} (h : entry.Proper)
    (hthere : entry.get? location = some there) : there.Proper := by
  induction location generalizing entry with
  | nil =>
      obtain rfl : entry = there := by simpa using hthere
      exact h
  | cons name location ih =>
      obtain ⟨entries, child, rfl, hchild, hrest⟩ := get?_cons_eq_some.mp hthere
      obtain ⟨-, -, below⟩ := h.entries
      exact ih (below _ (mem_of_lookup_eq_some hchild)) hrest

theorem Proper.properName {entry there : Entry} {location : Location} (h : entry.Proper)
    (hthere : entry.get? location = some there) {name : NativeText} (hname : name ∈ location) :
    ProperName name := by
  obtain ⟨before, after, rfl⟩ := List.append_of_mem hname
  rw [get?_append] at hthere
  obtain ⟨parent, hparent, hthere⟩ := Option.bind_eq_some_iff.mp hthere
  obtain ⟨entries, child, rfl, hchild, -⟩ := get?_cons_eq_some.mp hthere
  obtain ⟨-, names, -⟩ := (h.get? hparent).entries
  exact names _ (mem_of_lookup_eq_some hchild)

theorem ne_link_of_get? {entry there : Entry} {location : Location}
    (hthere : entry.get? location = some there) (hlink : ∀ target, there ≠ link target)
    (target : NativeText) : entry ≠ link target := by
  rintro rfl
  cases location with
  | nil => exact hlink target (by simpa using hthere.symm)
  | cons _ _ => cases hthere

end Entry

namespace FileSystem

def Proper (fs : FileSystem) : Prop :=
  (Entry.directory fs.root).Proper

instance (fs : FileSystem) : Decidable fs.Proper :=
  inferInstanceAs (Decidable (Entry.Proper _))

/-- A working directory with one file in it. -/
def oneFile : FileSystem where
  root := [("work", .directory [("A.kt", .file [])])]
  workingDirectory := ["work"]

theorem oneFile_proper : oneFile.Proper := by decide +kernel

variable {fs : FileSystem}

theorem entry?_eq (location : Location) :
    fs.entry? location = (Entry.directory fs.root).get? location :=
  rfl

theorem entry?_concat (place : Location) (name : NativeText)
    {entries : List (NativeText × Entry)} (h : fs.entry? place = some (.directory entries)) :
    fs.entry? (place ++ [name]) = entries.lookup name := by
  rw [entry?_eq] at h ⊢
  rw [Entry.get?_append, h]
  simp only [Option.bind_some, Entry.get?]
  cases entries.lookup name <;> simp

theorem entry?_dropLast {place : Location} {entry : Entry} (h : fs.entry? place = some entry) :
    ∃ entries, fs.entry? place.dropLast = some (.directory entries) := by
  rcases List.eq_nil_or_concat place with rfl | ⟨init, name, rfl⟩
  · exact ⟨fs.root, by simp [entry?_eq]⟩
  · rw [List.concat_eq_append] at h ⊢
    rw [List.dropLast_concat]
    rw [entry?_eq, Entry.get?_append] at h
    obtain ⟨parent, hparent, hchild⟩ := Option.bind_eq_some_iff.mp h
    obtain ⟨entries, -, rfl, -⟩ := Entry.get?_cons_eq_some.mp hchild
    exact ⟨entries, hparent⟩

end FileSystem
end NamingLint
