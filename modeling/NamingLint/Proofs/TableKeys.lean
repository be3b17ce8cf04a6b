import NamingLint.Proofs.Results
import NamingLint.Toml.Grammar

/-!
No key stands twice at the root of a document that was read. Every line is put into the tables that
the lines before it made; a key that is there already is refused, or what stands under it is
replaced. The tables below the root are not treated here.
-/

namespace NamingLint.Toml

def keysOf (entries : List (Key × Item)) : List String :=
  entries.map fun entry => entry.1.text

theorem keysOf_store (key : Key) (item : Item) (entries : List (Key × Item)) :
    keysOf (store key item entries) =
      if key.text ∈ keysOf entries then keysOf entries else keysOf entries ++ [key.text] := by
  induction entries with
  | nil => rfl
  | cons entry rest ih =>
      obtain ⟨k, old⟩ := entry
      by_cases h : k.text = key.text
      · simp [store, keysOf, h]
      · have hkey : key.text ∈ keysOf ((k, old) :: rest) ↔ key.text ∈ keysOf rest := by
          simp [keysOf, Ne.symm h]
        simp only [store, h, ↓reduceIte, hkey]
        change k.text :: keysOf (store key item rest) = _
        rw [ih]
        split <;> rfl

theorem nodup_keysOf_store {entries : List (Key × Item)} (h : (keysOf entries).Nodup) (key : Key)
    (item : Item) : (keysOf (store key item entries)).Nodup := by
  rw [keysOf_store]
  split
  · exact h
  · next hkey =>
      refine List.nodup_append.mpr ⟨h, List.pairwise_singleton _ _, fun k hk last hlast => ?_⟩
      rw [List.mem_singleton.mp hlast]
      rintro rfl
      exact hkey hk

theorem nodup_keysOf_remove {entries : List (Key × Item)} (h : (keysOf entries).Nodup)
    (key : String) : (keysOf (remove key entries)).Nodup :=
  h.sublist (List.filter_sublist.map _)

namespace Table

/-- No key stands twice in the table itself. -/
def Distinct (table : Table) : Prop := (keysOf table.entries).Nodup

theorem Distinct.store {form : TableForm} {entries : List (Key × Item)}
    (h : (Table.mk form entries).Distinct) (key : Key) (item : Item) (form' : TableForm) :
    (Table.mk form' (store key item entries)).Distinct :=
  nodup_keysOf_store h key item

/-- What the rest of a path leads to is put back under the key that the path begins with. -/
theorem modifyAt_cons_eq_ok {descent : Descent} {change : Table → Except Cause Table}
    {taken : List String} {key : Key} {path : List Key} {form : TableForm}
    {entries : List (Key × Item)} {table : Table}
    (h : (Table.mk form entries).modifyAt descent change taken (key :: path) = .ok table) :
    ∃ item, table = .mk form (Toml.store key item entries) := by
  rw [modifyAt] at h
  split at h
  · obtain ⟨child, -, h⟩ := bind_eq_ok h
    exact ⟨_, (Except.ok.inj h).symm⟩
  · split at h
    · cases h
    · split at h
      · cases h
      · obtain ⟨child, -, h⟩ := bind_eq_ok h
        exact ⟨_, (Except.ok.inj h).symm⟩
  · obtain ⟨child, -, h⟩ := bind_eq_ok h
    exact ⟨_, (Except.ok.inj h).symm⟩
  · cases h

/-- A change that keeps the keys of a table apart keeps them apart wherever it is made. -/
theorem Distinct.modifyAt {descent : Descent} {change : Table → Except Cause Table}
    {taken : List String} {path : List Key} {table table' : Table} (h : table.Distinct)
    (hchange : ∀ t t' : Table, t.Distinct → change t = .ok t' → t'.Distinct)
    (hmodify : table.modifyAt descent change taken path = .ok table') : table'.Distinct := by
  cases path with
  | nil => exact hchange table table' h hmodify
  | cons key path =>
      obtain ⟨form, entries⟩ := table
      obtain ⟨item, rfl⟩ := modifyAt_cons_eq_ok hmodify
      exact h.store key item form

theorem Distinct.put {clash : Option (List String)} {path : List Key} {key : Key} {value : Item}
    {table table' : Table} (h : table.Distinct)
    (hput : table.put clash path key value = .ok table') : table'.Distinct := by
  refine h.modifyAt (fun t t' ht hchange => ?_) hput
  obtain ⟨form, entries⟩ := t
  dsimp only at hchange
  split at hchange
  · cases hchange
  · split at hchange
    · cases hchange
    · rw [← Except.ok.inj hchange]
      exact ht.store key value form

theorem Distinct.openTable {path : List Key} {key : Key} {span : Span} {root root' : Table}
    (h : root.Distinct) (hopen : root.openTable path key span = .ok root') : root'.Distinct := by
  refine h.modifyAt (fun t t' ht hchange => ?_) hopen
  obtain ⟨form, entries⟩ := t
  have hremoved := nodup_keysOf_remove ht key.text
  dsimp only at hchange
  split at hchange
  · rw [← Except.ok.inj hchange]
    exact nodup_keysOf_store hremoved key _
  · split at hchange
    · rw [← Except.ok.inj hchange]
      exact nodup_keysOf_store hremoved key _
    · cases hchange
  · cases hchange

theorem Distinct.openElement {path : List Key} {key : Key} {span : Span} {root root' : Table}
    (h : root.Distinct) (hopen : root.openElement path key span = .ok root') :
    root'.Distinct := by
  refine h.modifyAt (fun t t' ht hchange => ?_) hopen
  obtain ⟨form, entries⟩ := t
  dsimp only at hchange
  split at hchange
  · rw [← Except.ok.inj hchange]
    exact ht.store key _ form
  · rw [← Except.ok.inj hchange]
    exact ht.store key _ form
  · cases hchange

end Table

namespace Document

def Distinct (doc : Document) : Prop := doc.root.Distinct

theorem distinct_extend {stop : Nat} {table : Table} (h : table.Distinct) :
    (extend stop table).Distinct := by
  cases table
  exact h

theorem Distinct.put {keys : List Key} {value : Item} {doc doc' : Document} (h : doc.Distinct)
    (hput : doc.put keys value = .ok doc') : doc'.Distinct := by
  obtain ⟨root, hroot, hput⟩ := bind_eq_ok hput
  rw [← Except.ok.inj hput]
  exact Table.Distinct.modifyAt h (fun t t' ht hchange => (distinct_extend ht).put hchange) hroot

theorem Distinct.openTable {keys : List Key} {span : Span} {doc doc' : Document}
    (h : doc.Distinct) (hopen : doc.openTable keys span = .ok doc') : doc'.Distinct := by
  obtain ⟨root, hroot, hopen⟩ := bind_eq_ok hopen
  rw [← Except.ok.inj hopen]
  exact Table.Distinct.openTable h hroot

theorem Distinct.openElement {keys : List Key} {span : Span} {doc doc' : Document}
    (h : doc.Distinct) (hopen : doc.openElement keys span = .ok doc') : doc'.Distinct := by
  obtain ⟨root, hroot, hopen⟩ := bind_eq_ok hopen
  rw [← Except.ok.inj hopen]
  exact Table.Distinct.openElement h hroot

end Document

namespace Parser

variable {α β : Type}

/-- Whatever is read, its value has the property. -/
def Yields (P : α → Prop) (p : Parser α) : Prop :=
  ∀ c a next, p c = .done a next → P a

variable {P : α → Prop} {Q : β → Prop}

theorem yields_pure {a : α} (h : P a) : Yields P (Pure.pure a : Parser α) := by
  intro c b next hdone
  obtain ⟨rfl, -⟩ := Reply.done.inj hdone
  exact h

theorem yields_fail {complaint : Complaint} : Yields P (fail complaint) := by
  intro c a next hdone
  cases hdone

theorem yields_bind {p : Parser α} {f : α → Parser β} (hp : Yields P p)
    (hf : ∀ a, P a → Yields Q (f a)) : Yields Q (p >>= f) := by
  intro c b next hdone
  change Parser.bind p f c = _ at hdone
  unfold Parser.bind at hdone
  split at hdone
  · next a c' ha => exact hf a (hp c a c' ha) c' b next hdone
  · cases hdone

/-- Of what was read before nothing needs to be known. -/
theorem yields_seq {p : Parser α} {f : α → Parser β} (hf : ∀ a, Yields Q (f a)) :
    Yields Q (p >>= f) :=
  yields_bind (fun _ _ _ _ => trivial : Yields (fun _ => True) p) fun a _ => hf a

theorem yields_must {p : Parser α} (hp : Yields P p) : Yields P (must p) := by
  intro c a next hdone
  unfold must at hdone
  split at hdone
  · cases hdone
  · exact hp c a next hdone

theorem yields_labelled {name : String} {p : Parser α} (hp : Yields P p) :
    Yields P (labelled name p) := by
  intro c a next hdone
  unfold labelled at hdone
  split at hdone
  · cases hdone
  · exact hp c a next hdone

theorem yields_checked {p : Parser α} {f : α → Except Cause β}
    (hf : ∀ a b, f a = .ok b → Q b) : Yields Q (checked p f) := by
  intro c b next hdone
  unfold checked at hdone
  split at hdone
  · next a c' _ =>
      split at hdone
      · next b' hb =>
          obtain ⟨rfl, -⟩ := Reply.done.inj hdone
          exact hf a _ hb
      · cases hdone
  · cases hdone

theorem yields_optional {p : Parser α} (hp : Yields P p) :
    Yields (fun found => ∀ a ∈ found, P a) (optional p) := by
  intro c found next hdone a ha
  unfold optional at hdone
  split at hdone
  · next b c' hb =>
      obtain ⟨rfl, -⟩ := Reply.done.inj hdone
      obtain rfl := Option.some.inj ha
      exact hp c _ c' hb
  · obtain ⟨rfl, -⟩ := Reply.done.inj hdone
    cases ha
  · cases hdone

variable {doc : Document}

theorem yields_tableLine (h : doc.Distinct) : Yields Document.Distinct (tableLine doc) := by
  refine yields_labelled (yields_seq fun two => ?_)
  split
  · exact yields_checked fun p doc' hopen => h.openElement hopen
  · exact yields_checked fun p doc' hopen => h.openTable hopen

/-- What a line is put into stays a document whose keys are apart. -/
theorem yields_documentLine (h : doc.Distinct) : Yields Document.Distinct (documentLine doc) := by
  refine yields_seq fun next => ?_
  -- What follows every kind of line hands the document on.
  have after : ∀ doc' : Document, doc'.Distinct →
      Yields Document.Distinct (blanks >>= fun _ => Pure.pure doc') :=
    fun doc' h => yields_seq fun _ => yields_pure h
  dsimp only
  split
  · exact yields_bind (P := Document.Distinct) yields_fail after
  · exact yields_bind (yields_must (yields_seq fun _ => yields_seq fun _ => yields_pure h)) after
  · exact yields_bind (yields_must (yields_tableLine h)) after
  · exact yields_seq fun _ => yields_bind (yields_pure h) after
  · exact yields_seq fun _ => yields_bind (yields_pure h) after
  · exact yields_bind (yields_must (yields_checked fun p doc' hput => h.put hput)) after

theorem yields_linesWithin (n : Nat) (h : doc.Distinct) :
    Yields Document.Distinct (linesWithin n doc) := by
  induction n generalizing doc with
  | zero => exact yields_pure h
  | succ n ih =>
      refine yields_bind (yields_optional (yields_documentLine h)) fun found hfound => ?_
      split
      · next doc' => exact ih (hfound doc' rfl)
      · exact yields_pure h

end Parser

theorem nodup_keysOf_parse {text : List Char} {table : Table} (h : parse text = .ok table) :
    (keysOf table.entries).Nodup := by
  have hempty : ({} : Document).Distinct := List.Pairwise.nil
  have hlines := Parser.yields_linesWithin (text.length + 1) hempty
  unfold parse at h
  split at h
  · next doc next hdone =>
      rw [← Except.ok.inj h]
      exact Parser.yields_seq (fun _ => Parser.yields_seq fun _ => Parser.yields_bind hlines
        fun _ hdoc => Parser.yields_seq fun _ => Parser.yields_pure hdoc) ⟨text, 0⟩ doc next hdone
  · cases h

end NamingLint.Toml
