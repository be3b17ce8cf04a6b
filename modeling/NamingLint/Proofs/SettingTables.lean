import NamingLint.Config.Loading
import NamingLint.Proofs.TableKeys
import NamingLint.Proofs.Utf8Text

/-!
Which documents are configurations, and which configuration each of them is. What counts is the
table at the root: which keys it has, and for each of them whether an array of texts stands there;
how the table was written does not count, and neither does the order of its keys. Which texts are
documents at all is not treated here, and neither is what a refusal says.
-/

namespace NamingLint

open Toml

namespace Toml

/-! ### Tables as their readers see them -/

namespace Item

def text? : Item → Option String
  | .scalar (.text s) _ => some s
  | _ => none

/-- The elements of an array; the tables of repeated double headers make one as well. -/
def elements? : Item → Option (List Item)
  | .array elements _ => some elements
  | .tables reversed => some (reversed.reverse.map .table)
  | .scalar _ _ | .table _ => none

/-- The texts of an array that has texts only. -/
def texts? (item : Item) : Option (List String) :=
  item.elements?.bind fun elements => elements.mapM text?

end Item

theorem mem_keysOf {key : Key} {item : Item} {entries : List (Key × Item)}
    (h : (key, item) ∈ entries) : key.text ∈ keysOf entries :=
  List.mem_map.mpr ⟨(key, item), h, rfl⟩

theorem nodup_keysOf_cons {key : Key} {item : Item} {entries : List (Key × Item)} :
    (keysOf ((key, item) :: entries)).Nodup ↔
      key.text ∉ keysOf entries ∧ (keysOf entries).Nodup :=
  List.nodup_cons

theorem lookup_eq_some_iff {entries : List (Key × Item)} (h : (keysOf entries).Nodup)
    (name : String) (item : Item) :
    lookup name entries = some item ↔ ∃ key, key.text = name ∧ (key, item) ∈ entries := by
  induction entries with
  | nil => simp [lookup]
  | cons entry rest ih =>
      obtain ⟨k, first⟩ := entry
      obtain ⟨hk, hrest⟩ := nodup_keysOf_cons.mp h
      rw [lookup]
      split
      · next hname =>
          constructor
          · intro hfirst
            exact ⟨k, hname, by rw [Option.some.inj hfirst]; exact List.mem_cons_self⟩
          · rintro ⟨key, hkey, hmem⟩
            rcases List.mem_cons.mp hmem with hsame | hmem
            · rw [(Prod.mk.inj hsame).2]
            · rw [hname, ← hkey] at hk
              exact absurd (mem_keysOf hmem) hk
      · next hname =>
          rw [ih hrest]
          refine exists_congr fun key => and_congr_right fun hkey => ?_
          have hother : (key, item) ≠ (k, first) := fun hsame =>
            hname (by rw [← (Prod.mk.inj hsame).1, hkey])
          rw [List.mem_cons, or_iff_right hother]

theorem lookup_eq_none {entries : List (Key × Item)} {name : String}
    (h : name ∉ keysOf entries) : lookup name entries = none := by
  induction entries with
  | nil => rfl
  | cons entry rest ih =>
      obtain ⟨hname, hrest⟩ := List.ne_and_not_mem_of_not_mem_cons h
      rw [lookup, if_neg hname.symm]
      exact ih hrest

namespace Table

/-- What stands under a key, where it is an array of texts. -/
def texts? (table : Table) (name : String) : Option (List String) :=
  (lookup name table.entries).bind Item.texts?

/-- All keys in the order in which they are kept, and what stands under them. -/
def settings (table : Table) : List (String × Option (List String)) :=
  table.entries.map fun entry => (entry.1.text, entry.2.texts?)

theorem texts?_cons (form : TableForm) (key : Key) (item : Item) (rest : List (Key × Item))
    (name : String) :
    (Table.mk form ((key, item) :: rest)).texts? name =
      if key.text = name then item.texts? else (Table.mk form rest).texts? name := by
  simp only [texts?, entries, lookup]
  split <;> rfl

theorem texts?_eq_some_iff {table : Table} (h : table.Distinct) (name : String)
    (values : List String) :
    table.texts? name = some values ↔ (name, some values) ∈ table.settings := by
  simp only [texts?, Option.bind_eq_some_iff, lookup_eq_some_iff h, settings, List.mem_map,
    Prod.exists, Prod.mk.injEq]
  constructor
  · rintro ⟨item, ⟨key, hkey, hmem⟩, hvalues⟩
    exact ⟨key, item, hmem, hkey, hvalues⟩
  · rintro ⟨key, item, hmem, hkey, hvalues⟩
    exact ⟨item, ⟨key, hkey, hmem⟩, hvalues⟩

theorem texts?_congr {a b : Table} (ha : a.Distinct) (hb : b.Distinct)
    (h : a.settings.Perm b.settings) : a.texts? = b.texts? := by
  funext name
  refine Option.ext fun values => ?_
  rw [texts?_eq_some_iff ha, texts?_eq_some_iff hb, h.mem_iff]

/-- Every key of the table is the name of a setting, and an array of texts stands under it. -/
def WritesSettings (table : Table) : Prop :=
  ∀ entry ∈ table.entries,
    entry.1.text ∈ ["disabled_rules", "extensions", "exclude_dirs"] ∧ entry.2.texts?.isSome

theorem writesSettings_cons (form : TableForm) (entry : Key × Item) (rest : List (Key × Item)) :
    (Table.mk form (entry :: rest)).WritesSettings ↔
      (entry.1.text ∈ ["disabled_rules", "extensions", "exclude_dirs"] ∧
        entry.2.texts?.isSome) ∧ (Table.mk form rest).WritesSettings :=
  List.forall_mem_cons

instance (table : Table) : Decidable table.WritesSettings :=
  inferInstanceAs (Decidable (∀ entry ∈ table.entries, _ ∧ _))

theorem writesSettings_iff (table : Table) :
    table.WritesSettings ↔ ∀ setting ∈ table.settings,
      setting.1 ∈ ["disabled_rules", "extensions", "exclude_dirs"] ∧ setting.2.isSome := by
  simp only [WritesSettings, settings, List.forall_mem_map]

theorem writesSettings_congr {a b : Table} (h : a.settings.Perm b.settings) :
    a.WritesSettings ↔ b.WritesSettings := by
  simp only [writesSettings_iff, h.mem_iff]

end Table
end Toml

/-! ### Reading settings -/

theorem Setting.ofName?_eq_some_iff {name : String} {setting : Setting} :
    Setting.ofName? name = some setting ↔ setting.name = name := by
  constructor
  · intro h
    unfold Setting.ofName? at h
    have hfound := List.find?_some h
    exact beq_iff_eq.mp hfound
  · rintro rfl
    cases setting <;> rfl

theorem Setting.mem_names_iff {name : String} :
    name ∈ ["disabled_rules", "extensions", "exclude_dirs"] ↔ ∃ setting : Setting,
      setting.name = name := by
  constructor
  · intro h
    obtain ⟨setting, -, hname⟩ := List.mem_map.mp (show name ∈ Setting.all.map Setting.name from h)
    exact ⟨setting, hname⟩
  · rintro ⟨setting, rfl⟩
    cases setting <;> decide

theorem readString_eq_ok_iff (key : Key) (item : Item) (s : String) :
    readString key item = .ok s ↔ item.text? = some s := by
  unfold readString Item.text?
  split <;> simp

theorem readStrings_eq_ok_iff (key : Key) (item : Item) (values : List String) :
    readStrings key item = .ok values ↔ item.texts? = some values := by
  cases item with
  | array elements span => exact mapM_eq_ok_iff (readString_eq_ok_iff key) elements values
  | tables reversed =>
      simp only [Item.texts?, Item.elements?, Option.bind_some, List.mapM_map]
      exact mapM_eq_ok_iff (fun t => readString_eq_ok_iff key (.table t)) reversed.reverse values
  | scalar value span => simp [readStrings, Item.texts?, Item.elements?]
  | table t => simp [readStrings, Item.texts?, Item.elements?]

theorem readEntry_eq_ok_iff (config config' : Config) (entry : Key × Item) :
    readEntry config entry = .ok config' ↔ ∃ setting : Setting, setting.name = entry.1.text ∧
      ∃ values, entry.2.texts? = some values ∧ config' = setting.put values config := by
  obtain ⟨key, item⟩ := entry
  simp only [readEntry]
  split
  · next hname =>
      refine iff_of_false (fun h => by cases h) ?_
      rintro ⟨setting, hsetting, -⟩
      rw [Setting.ofName?_eq_some_iff.mpr hsetting] at hname
      cases hname
  · next setting hname =>
      have hsetting := Setting.ofName?_eq_some_iff.mp hname
      simp only [bind_eq_ok_iff, readStrings_eq_ok_iff, pure, Except.pure, Except.ok.injEq]
      constructor
      · rintro ⟨values, hvalues, rfl⟩
        exact ⟨setting, hsetting, values, hvalues, rfl⟩
      · rintro ⟨other, hother, values, hvalues, rfl⟩
        rw [Setting.ofName?_eq_some_iff.mpr hother] at hname
        exact ⟨values, hvalues, by rw [Option.some.inj hname]⟩

namespace Config

/-- Settings that are written take the place of those that are there. -/
def overridden (config : Config) (written : String → Option (List String)) : Config where
  disabledRules := (written "disabled_rules").getD config.disabledRules
  extensions := (written "extensions").getD config.extensions
  excludeDirs := (written "exclude_dirs").getD config.excludeDirs

/-- A setting that is put first can be written with those that are written later. -/
theorem overridden_put {setting : Setting} {values : List String} {config : Config}
    {written written' : String → Option (List String)}
    (hnew : written' setting.name = some values) (hlater : written setting.name = none)
    (hother : ∀ name, name ≠ setting.name → written' name = written name) :
    (setting.put values config).overridden written = config.overridden written' := by
  cases setting <;> simp_all [overridden, Setting.put, Setting.name]

theorem overridden_cons {form : TableForm} {key : Key} {item : Item} {rest : List (Key × Item)}
    (h : key.text ∉ keysOf rest) {setting : Setting} (hname : setting.name = key.text)
    {values : List String} (hvalues : item.texts? = some values) {config : Config} :
    (setting.put values config).overridden (Table.mk form rest).texts? =
      config.overridden (Table.mk form ((key, item) :: rest)).texts? := by
  apply overridden_put
  · rw [Table.texts?_cons, if_pos hname.symm, hvalues]
  · rw [hname, Table.texts?, Table.entries, lookup_eq_none h, Option.bind_none]
  · intro name hother
    rw [Table.texts?_cons, if_neg fun hsame => hother (by rw [← hsame, hname])]

/-- The entries are read one after the other; each of them puts a setting that none of those behind
it puts again. -/
theorem foldlM_readEntry_eq_ok_iff {form : TableForm} {entries : List (Key × Item)}
    (h : (keysOf entries).Nodup) (config config' : Config) :
    entries.foldlM readEntry config = .ok config' ↔
      (Table.mk form entries).WritesSettings ∧
        config' = config.overridden (Table.mk form entries).texts? := by
  induction entries generalizing config with
  | nil =>
      constructor
      · intro hread
        exact ⟨List.forall_mem_nil _, (Except.ok.inj hread).symm⟩
      · rintro ⟨-, rfl⟩
        rfl
  | cons entry rest ih =>
      obtain ⟨key, item⟩ := entry
      obtain ⟨hkey, hrest⟩ := nodup_keysOf_cons.mp h
      rw [List.foldlM_cons, bind_eq_ok_iff, Table.writesSettings_cons, Setting.mem_names_iff,
        Option.isSome_iff_exists]
      simp only [readEntry_eq_ok_iff, ih hrest]
      constructor
      · rintro ⟨-, ⟨setting, hname, values, hvalues, rfl⟩, hwrites, rfl⟩
        exact ⟨⟨⟨⟨setting, hname⟩, values, hvalues⟩, hwrites⟩, overridden_cons hkey hname hvalues⟩
      · rintro ⟨⟨⟨⟨setting, hname⟩, values, hvalues⟩, hwrites⟩, rfl⟩
        exact ⟨_, ⟨setting, hname, values, hvalues, rfl⟩, hwrites,
          (overridden_cons hkey hname hvalues).symm⟩

theorem ofTable_eq_ok_iff {table : Table} (h : table.Distinct) (config : Config) :
    ofTable table = .ok config ↔
      table.WritesSettings ∧ config = overridden {} table.texts? := by
  obtain ⟨form, entries⟩ := table
  exact foldlM_readEntry_eq_ok_iff h {} config

theorem parse_eq_ok_iff {text : List Char} {table : Table} (htable : Toml.parse text = .ok table)
    (config : Config) :
    Config.parse text = .ok config ↔
      table.WritesSettings ∧ config = overridden {} table.texts? := by
  rw [← ofTable_eq_ok_iff (nodup_keysOf_parse htable), Config.parse]
  simp only [htable]
  cases ofTable table with
  | error e => simp
  | ok c => simp

/-- A text that is no configuration is refused in the name of where it comes from. -/
theorem ofOctets_encode (origin : String) (text : List Char) :
    ofOctets origin (text.flatMap String.utf8EncodeChar) =
      (Config.parse text).mapError (.malformed origin) := by
  have hdecode := Text.Utf8.decode_eq_ok_iff.mpr (Eq.refl (text.flatMap String.utf8EncodeChar))
  simp only [ofOctets, hdecode]
  cases Config.parse text with
  | error _ | ok _ => rfl

theorem ofOctets_eq_ok_iff (origin : String) (text : List Char) (config : Config) :
    ofOctets origin (text.flatMap String.utf8EncodeChar) = .ok config ↔
      Config.parse text = .ok config := by
  rw [ofOctets_encode]
  cases Config.parse text with
  | error reason => exact iff_of_false (fun h => by cases h) fun h => by cases h
  | ok c =>
      exact ⟨fun h => congrArg Except.ok (Except.ok.inj h),
        fun h => congrArg Except.ok (Except.ok.inj h)⟩

theorem exists_malformed {origin : String} {text : List Char}
    (h : ∀ config, Config.parse text ≠ .ok config) :
    ∃ reason, ofOctets origin (text.flatMap String.utf8EncodeChar) =
      .error (.malformed origin reason) := by
  rw [ofOctets_encode]
  cases hparse : Config.parse text with
  | error reason => exact ⟨reason, rfl⟩
  | ok config => exact absurd hparse (h config)

/-- A document is a configuration when every key at its root names a setting under which there is
an array of texts. It then keeps the default of each setting that has no key. The order of the
keys does not count. -/
theorem ofOctets_document (origin : String) (text : List Char) :
    (∀ table, Toml.parse text = .ok table →
      (keysOf table.entries).Nodup ∧
      (table.WritesSettings → ofOctets origin (text.flatMap String.utf8EncodeChar) =
        .ok (overridden {} table.texts?)) ∧
      (¬ table.WritesSettings → ∃ reason,
        ofOctets origin (text.flatMap String.utf8EncodeChar) =
          .error (.malformed origin reason)) ∧
      ∀ text' table', Toml.parse text' = .ok table' → table'.settings.Perm table.settings →
        ∀ config, ofOctets origin (text'.flatMap String.utf8EncodeChar) = .ok config ↔
          ofOctets origin (text.flatMap String.utf8EncodeChar) = .ok config) ∧
    ∀ e, Toml.parse text = .error e → ∃ reason,
      ofOctets origin (text.flatMap String.utf8EncodeChar) = .error (.malformed origin reason) := by
  constructor
  · intro table htable
    have hdistinct := nodup_keysOf_parse htable
    refine ⟨hdistinct, fun hwrites => ?_, fun hwrites => ?_, ?_⟩
    · rw [ofOctets_eq_ok_iff, parse_eq_ok_iff htable]
      exact ⟨hwrites, rfl⟩
    · refine exists_malformed fun config hparse => hwrites ?_
      exact ((parse_eq_ok_iff htable config).mp hparse).1
    · intro text' table' htable' hperm config
      rw [ofOctets_eq_ok_iff, ofOctets_eq_ok_iff, parse_eq_ok_iff htable,
        parse_eq_ok_iff htable', Table.writesSettings_congr hperm,
        Table.texts?_congr (nodup_keysOf_parse htable') hdistinct hperm]
  · intro e he
    refine exists_malformed fun config hparse => ?_
    rw [Config.parse, he] at hparse
    cases hparse

def quotedSettings : List Char :=
  "exclude_dirs = []\n\"extensions\" = ['kts', \"\\u006bt\",] # both\n".toList

def reorderedSettings : List Char := "extensions=[\n'kts',\n'kt']\nexclude_dirs=[]".toList

def misspeltSettings : List Char := "extension = []".toList

/-- An empty array counts as written, and a misspelt key does not go unnoticed. -/
theorem ofOctets_quotedSettings :
    ofOctets "a.toml" (quotedSettings.flatMap String.utf8EncodeChar) =
        .ok { disabledRules := [], extensions := ["kts", "kt"], excludeDirs := [] } ∧
      ofOctets "a.toml" (reorderedSettings.flatMap String.utf8EncodeChar) =
        .ok { disabledRules := [], extensions := ["kts", "kt"], excludeDirs := [] } ∧
      ∃ reason, ofOctets "a.toml" (misspeltSettings.flatMap String.utf8EncodeChar) =
        .error (.malformed "a.toml" reason) := by
  obtain ⟨quoted, hquoted, hsettings, hwrites, hvalues⟩ :=
    exists_of_any_toOption (x := Toml.parse quotedSettings) (p := fun table =>
      table.settings = [("exclude_dirs", some []), ("extensions", some ["kts", "kt"])] ∧
        table.WritesSettings ∧ overridden {} table.texts? = ⟨[], ["kts", "kt"], []⟩)
      (by decide +kernel)
  obtain ⟨reordered, hreordered, hswapped⟩ :=
    exists_of_any_toOption (x := Toml.parse reorderedSettings) (p := fun table =>
      table.settings = [("extensions", some ["kts", "kt"]), ("exclude_dirs", some [])])
      (by decide +kernel)
  obtain ⟨misspelt, hmisspelt, hrefused⟩ :=
    exists_of_any_toOption (x := Toml.parse misspeltSettings) (p := fun table =>
      ¬ table.WritesSettings) (by decide +kernel)
  obtain ⟨-, haccepted, -, horder⟩ := (ofOctets_document "a.toml" quotedSettings).1 quoted hquoted
  obtain ⟨-, -, hmalformed, -⟩ :=
    (ofOctets_document "a.toml" misspeltSettings).1 misspelt hmisspelt
  have hread := haccepted hwrites
  rw [hvalues] at hread
  refine ⟨hread, (horder reorderedSettings reordered hreordered ?_ _).mpr hread,
    hmalformed hrefused⟩
  rw [hswapped, hsettings]
  exact List.Perm.swap ..

end Config
end NamingLint
