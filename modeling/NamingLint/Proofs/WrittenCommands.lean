import Mathlib.Data.List.Induction
import NamingLint.Proofs.LogSettings

/-!
Checks written as arguments and read back. In front of two dashes the options stand anywhere among
the paths; behind them there are paths only, whatever they begin with. Options have their values
attached with an equals sign; values given as an argument of their own are not treated here.
-/

namespace NamingLint

namespace Report.Format

def name : Format → NativeText
  | plain => "plain"
  | json => "json"

theorem ofName?_name (format : Format) : ofName? format.name = some format := by
  cases format <;> rfl

end Report.Format

namespace Argument

theorem cutAtEquals_append {name : List UInt8} (h : equals ∉ name) (value : List UInt8) :
    cutAtEquals (name ++ equals :: value) = (name, some value) := by
  induction name with
  | nil => rfl
  | cons octet rest ih =>
      obtain ⟨hoctet, hrest⟩ := not_or.mp (mt List.mem_cons.mpr h)
      simp [cutAtEquals, Ne.symm hoctet, ih hrest]

/-- A long option with its value in one argument. -/
def attached (name value : NativeText) : NativeText := "--" ++ name ++ "=" ++ value

/-- The value is all that follows the first equals sign. -/
theorem ofText_attached {name : NativeText} (h : equals ∉ name.octets) (value : NativeText) :
    ofText (attached name value) = .long name (some value) := by
  have hlong (rest : List UInt8) (hrest : rest ≠ []) :
      ofOctets (dash :: dash :: rest) =
        .long ⟨(cutAtEquals rest).1⟩ ((cutAtEquals rest).2.map NativeText.mk) := by
    cases rest with
    | nil => exact absurd rfl hrest
    | cons octet rest => rfl
  have hoctets : (attached name value).octets =
      dash :: dash :: (name.octets ++ equals :: value.octets) := by
    have hdashes : (NativeText.ofText "--").octets = [dash, dash] := by decide
    have hequals : (NativeText.ofText "=").octets = [equals] := by decide
    simp [attached, hdashes, hequals]
  rw [ofText, hoctets, hlong _ (by simp), cutAtEquals_append h]
  rfl

theorem ofText_word {text : NativeText} (h : text.octets.head? ≠ some dash) :
    ofText text = .word := by
  unfold ofText ofOctets
  split <;> simp_all

end Argument

/-- An argument in front of two dashes: a path or an option with its value. -/
inductive CheckArgument where
  | path (text : NativeText)
  | config (file : NativeText)
  | format (value : Report.Format)
  | disable (rule : String)
  | verbose (short : Bool)
  deriving Repr, DecidableEq

namespace CheckArgument

def text : CheckArgument → NativeText
  | path text => text
  | config file => Argument.attached "config" file
  | format value => Argument.attached "format" value.name
  | disable rule => Argument.attached "disable" rule
  | verbose true => "-v"
  | verbose false => "--verbose"

@[simp] def path? : CheckArgument → Option NativeText
  | path text => some text
  | config _ | format _ | disable _ | verbose _ => none

@[simp] def config? : CheckArgument → Option NativeText
  | config file => some file
  | path _ | format _ | disable _ | verbose _ => none

@[simp] def format? : CheckArgument → Option Report.Format
  | format value => some value
  | path _ | config _ | disable _ | verbose _ => none

@[simp] def disable? : CheckArgument → Option String
  | disable rule => some rule
  | path _ | config _ | format _ | verbose _ => none

@[simp] def verbose? : CheckArgument → Option Bool
  | verbose short => some short
  | path _ | config _ | format _ | disable _ => none

/-- What the argument does to the settings. -/
def apply (s : Settings) : CheckArgument → Except UsageError Settings
  | path text => s.addPaths [text]
  | config file => s.set file .config
  | format value => s.set value.name .format
  | disable rule => s.set rule .disable
  | verbose _ => s.raise .verbose

/-- Paths are not empty and do not pass for options, and a configuration file has a name. -/
def Proper : CheckArgument → Prop
  | path text => text ≠ "" ∧ text.octets.head? ≠ some Argument.dash
  | config file => file ≠ ""
  | format _ | disable _ | verbose _ => True

end CheckArgument

theorem Settings.addPaths_eq {paths : List NativeText} (h : .ofText "" ∉ paths) (s : Settings) :
    s.addPaths paths = .ok { s with paths := s.paths ++ paths.map Path.mk } := by
  simp [addPaths, h]

namespace Reading

/-- The reading has come to these settings once its pending paths are added. -/
inductive Holds (separated : Bool) : Reading → Settings → Prop
  | settled (s : Settings) : Holds separated { settings := s, separated } s
  | collecting (s : Settings) {values : List NativeText} (h : .ofText "" ∉ values) :
      Holds separated { settings := s, pending := .paths values, separated }
        { s with paths := s.paths ++ values.map Path.mk }

variable {separated : Bool} {r : Reading} {s : Settings}

theorem Holds.separated_eq (h : Holds separated r s) : r.separated = separated := by
  cases h with
  | settled _ | collecting _ _ => rfl

theorem Holds.settle (h : Holds separated r s) :
    r.settle = .ok { settings := s, separated } := by
  cases h with
  | settled s => rfl
  | collecting s hvalues =>
      simp only [Reading.settle, Pending.settle, Settings.addPaths_eq hvalues]
      rfl

theorem Holds.path (h : Holds separated r s) {text : NativeText} (htext : text ≠ "") :
    ∃ r', r.path .check text = .ok r' ∧
      Holds separated r' { s with paths := s.paths ++ [⟨text⟩] } := by
  have hone : .ofText "" ∉ [text] := by simpa using htext.symm
  cases h with
  | settled s => exact ⟨_, rfl, .collecting s hone⟩
  | @collecting s values hvalues =>
      refine ⟨_, rfl, ?_⟩
      simpa using Holds.collecting s (List.not_mem_append hvalues hone)

theorem Holds.word (h : Holds separated r s) {text : NativeText} (htext : text ≠ "") :
    ∃ r', r.word .check text = .ok r' ∧
      Holds separated r' { s with paths := s.paths ++ [⟨text⟩] } := by
  have hpath := h.path htext
  cases h with
  | settled _ | collecting _ _ => exact hpath

/-- The reading fails as the settings do, and otherwise holds them. -/
def Follows (separated : Bool) (x : Except UsageError Reading) :
    Except UsageError Settings → Prop
  | .error e => x = .error e
  | .ok s => ∃ r, x = .ok r ∧ Holds separated r s

theorem follows_set (separated : Bool) (y : Except UsageError Settings) :
    Follows separated (do return { settings := ← y, separated }) y := by
  cases y with
  | error e => rfl
  | ok s => exact ⟨_, rfl, .settled s⟩

theorem Follows.bind {separated separated' : Bool} {x : Except UsageError Reading}
    {y : Except UsageError Settings} (h : Follows separated x y)
    {f : Reading → Except UsageError Reading} {g : Settings → Except UsageError Settings}
    (step : ∀ r s, Holds separated r s → Follows separated' (f r) (g s)) :
    Follows separated' (x >>= f) (y >>= g) := by
  cases y with
  | error e =>
      rw [show x = .error e from h]
      rfl
  | ok s =>
      obtain ⟨r, rfl, hr⟩ := h
      exact step r s hr

/-- An option with its value in one argument settles the paths before it and is then set. -/
theorem Holds.attached (h : Holds false r s) {name : NativeText} {option : ValueOption}
    (hname : (name, option) ∈ Dialect.check.options) (value : NativeText) :
    Follows false (r.step .check (Argument.attached name value)) (s.set value option) := by
  have hknown : ∀ p ∈ Dialect.check.options,
      Argument.equals ∉ p.1.octets ∧ Dialect.check.options.lookup p.1 = some p.2 := by decide
  obtain ⟨hequals, hlookup⟩ := hknown _ hname
  rw [step_unseparated h.separated_eq, Argument.ofText_attached hequals]
  simp only [Reading.long, hlookup]
  change Follows false (r.settle >>= _) _
  rw [h.settle]
  exact follows_set false (s.set value option)

theorem Holds.verbose (h : Holds false r s) (short : Bool) :
    Follows false (r.step .check (CheckArgument.verbose short).text) (s.raise .verbose) := by
  have hraise : r.step .check (CheckArgument.verbose short).text = r.raise .verbose := by
    rw [step_unseparated h.separated_eq]
    cases short with
    | false => rfl
    | true =>
        change r.raise .verbose >>= pure = _
        cases r.raise .verbose <;> rfl
  rw [hraise]
  change Follows false (r.settle >>= _) _
  rw [h.settle]
  exact follows_set false (s.raise .verbose)

/-- One argument in front of two dashes does what it says, whatever was read before. -/
theorem Holds.front (h : Holds false r s) {a : CheckArgument} (ha : a.Proper) :
    Follows false (r.step .check a.text) (a.apply s) := by
  cases a with
  | path text =>
      obtain ⟨hne, hdash⟩ := ha
      have hone : .ofText "" ∉ [text] := by simpa using hne.symm
      rw [CheckArgument.text, step_unseparated h.separated_eq, Argument.ofText_word hdash,
        CheckArgument.apply, Settings.addPaths_eq hone]
      exact h.word hne
  | config file =>
      exact h.attached (by decide : (.ofText "config", .config) ∈ Dialect.check.options) file
  | format value =>
      exact h.attached (by decide : (.ofText "format", .format) ∈ Dialect.check.options) value.name
  | disable rule =>
      exact h.attached (by decide : (.ofText "disable", .disable) ∈ Dialect.check.options) rule
  | verbose short => exact h.verbose short

theorem Holds.fronts (h : Holds false r s) {front : List CheckArgument}
    (hfront : ∀ a ∈ front, a.Proper) :
    Follows false ((front.map CheckArgument.text).foldlM (step .check) r)
      (front.foldlM CheckArgument.apply s) := by
  induction front generalizing r s with
  | nil => exact ⟨r, rfl, h⟩
  | cons a rest ih =>
      obtain ⟨ha, hrest⟩ := List.forall_mem_cons.mp hfront
      rw [List.map_cons, List.foldlM_cons, List.foldlM_cons]
      exact (h.front ha).bind fun r s h => ih h hrest

/-- Behind two dashes everything is a path, and what the argument begins with does not matter. -/
theorem Holds.behind (h : Holds true r s) {paths : List NativeText} (hpaths : .ofText "" ∉ paths) :
    ∃ r', paths.foldlM (step .check) r = .ok r' ∧
      Holds true r' { s with paths := s.paths ++ paths.map Path.mk } := by
  induction paths generalizing r s with
  | nil => exact ⟨r, rfl, by simpa using h⟩
  | cons text rest ih =>
      obtain ⟨htext, hrest⟩ := not_or.mp (mt List.mem_cons.mpr hpaths)
      obtain ⟨r', hstep, h'⟩ := h.path (Ne.symm htext)
      obtain ⟨r'', hsteps, h''⟩ := ih h' hrest
      refine ⟨r'', ?_, by simpa using h''⟩
      rw [List.foldlM_cons, step_separated h.separated_eq, hstep]
      exact hsteps

/-- What comes after the options and the paths among them, be it nothing. -/
theorem Holds.rest (h : Holds false r s) {behind : Option (List NativeText)}
    (hbehind : .ofText "" ∉ behind.getD []) :
    ∃ separated r', (behind.elim [] (.ofText "--" :: ·)).foldlM (step .check) r = .ok r' ∧
      Holds separated r' { s with paths := s.paths ++ (behind.getD []).map Path.mk } := by
  cases behind with
  | none => exact ⟨false, r, rfl, by simpa using h⟩
  | some paths =>
      have hstep : r.step .check "--" = .ok { r with separated := true } :=
        step_unseparated h.separated_eq "--"
      have hseparated : Holds true { r with separated := true } s := by
        cases h with
        | settled s => exact .settled s
        | collecting s hvalues => exact .collecting s hvalues
      obtain ⟨r', hsteps, h'⟩ := hseparated.behind hbehind
      refine ⟨true, r', ?_, h'⟩
      rw [Option.elim_some, List.foldlM_cons, hstep]
      exact hsteps

end Reading

/-- The settings that arguments in front of two dashes make where none of them repeats another. -/
def Settings.ofFront (front : List CheckArgument) : Settings where
  paths := (front.filterMap CheckArgument.path?).map Path.mk
  config := (front.filterMap CheckArgument.config?).head?.map Path.mk
  format := (front.filterMap CheckArgument.format?).head?
  disable := front.filterMap CheckArgument.disable?
  verbose := !(front.filterMap CheckArgument.verbose?).isEmpty

namespace CheckArgument

/-- An option that may be given once is given again. -/
def Repeats (front : List CheckArgument) : Prop :=
  2 ≤ (front.filterMap config?).length ∨ 2 ≤ (front.filterMap format?).length ∨
    2 ≤ (front.filterMap verbose?).length

/-- The argument is an option that may be given once and was given. -/
def Given (front : List CheckArgument) : CheckArgument → Prop
  | path _ | disable _ => False
  | config _ => front.filterMap config? ≠ []
  | format _ => front.filterMap format? ≠ []
  | verbose _ => front.filterMap verbose? ≠ []

theorem two_le_length_filterMap {α β : Type} (f : α → Option β) (front : List α) (a : α) :
    2 ≤ ((front ++ [a]).filterMap f).length ↔
      2 ≤ (front.filterMap f).length ∨ ((f a).isSome ∧ front.filterMap f ≠ []) := by
  rw [List.filterMap_append, List.length_append, ← List.length_pos_iff]
  cases h : f a with
  | none => simp [h]
  | some b =>
      simp only [List.filterMap_cons, h, List.filterMap_nil, List.length_singleton,
        Option.isSome_some, true_and]
      omega

theorem repeats_concat (front : List CheckArgument) (a : CheckArgument) :
    Repeats (front ++ [a]) ↔ Repeats front ∨ Given front a := by
  simp only [Repeats, two_le_length_filterMap]
  cases a with
  | path text | disable rule => simp [Given]
  | config file | format value | verbose short =>
      simp only [Given, config?, format?, verbose?, Option.isSome_some, Option.isSome_none,
        true_and, Bool.false_eq_true, false_and, or_false]
      tauto

theorem apply_of_given {front : List CheckArgument} {a : CheckArgument} (h : Given front a) :
    a.apply (.ofFront front) = .error .repeatedOption := by
  cases a with
  | path text | disable rule => cases h
  | config file =>
      obtain ⟨first, rest, hfirst⟩ := List.exists_cons_of_ne_nil h
      simp [apply, Settings.set, Settings.setConfig, Settings.ofFront, hfirst]
  | format value =>
      obtain ⟨first, rest, hfirst⟩ := List.exists_cons_of_ne_nil h
      simp [apply, Settings.set, Settings.setFormat, Settings.ofFront, hfirst]
  | verbose short =>
      obtain ⟨first, rest, hfirst⟩ := List.exists_cons_of_ne_nil h
      simp [apply, Settings.raise, Settings.ofFront, hfirst]

theorem apply_of_not_given {front : List CheckArgument} {a : CheckArgument} (ha : a.Proper)
    (h : ¬ Given front a) : a.apply (.ofFront front) = .ok (.ofFront (front ++ [a])) := by
  cases a with
  | path text =>
      have hone : .ofText "" ∉ [text] := by simpa using ha.1.symm
      rw [apply, Settings.addPaths_eq hone]
      simp [Settings.ofFront, List.filterMap_cons]
  | config file =>
      have hnone : front.filterMap config? = [] := Decidable.not_not.mp h
      have hfile : file ≠ "" := ha
      simp [apply, Settings.set, Settings.setConfig, Settings.ofFront, List.filterMap_cons, hnone,
        hfile]
  | format value =>
      have hnone : front.filterMap format? = [] := Decidable.not_not.mp h
      simp [apply, Settings.set, Settings.setFormat, Settings.ofFront, List.filterMap_cons, hnone,
        Report.Format.ofName?_name]
  | disable rule =>
      simp [apply, Settings.set, Settings.addDisabled, Settings.ofFront, List.filterMap_cons]
  | verbose short =>
      have hnone : front.filterMap verbose? = [] := Decidable.not_not.mp h
      simp [apply, Settings.raise, Settings.ofFront, List.filterMap_cons, hnone]

/-- What all the arguments do together. The induction adds arguments at the end, as they are read,
since each is judged by those before it. -/
theorem foldlM_apply {front : List CheckArgument} (hfront : ∀ a ∈ front, a.Proper) :
    (Repeats front → front.foldlM apply {} = .error .repeatedOption) ∧
      (¬ Repeats front → front.foldlM apply {} = .ok (.ofFront front)) := by
  induction front using List.reverseRecOn with
  | nil => exact ⟨fun h => by simp [Repeats] at h, fun _ => rfl⟩
  | append_singleton front a ih =>
      obtain ⟨hfront, ha⟩ := List.forall_mem_append.mp hfront
      have ha : a.Proper := ha a (List.mem_singleton_self a)
      obtain ⟨hrepeats, hsingle⟩ := ih hfront
      have hlast (s : Settings) : [a].foldlM apply s = a.apply s := by
        change a.apply s >>= pure = _
        cases a.apply s <;> rfl
      rw [List.foldlM_append, repeats_concat, not_or]
      constructor
      · intro h
        by_cases hbefore : Repeats front
        · rw [hrepeats hbefore]
          rfl
        · rw [hsingle hbefore]
          exact (hlast _).trans (apply_of_given (h.resolve_left hbefore))
      · intro h
        obtain ⟨hbefore, hnew⟩ := h
        rw [hsingle hbefore]
        exact (hlast _).trans (apply_of_not_given ha hnew)

end CheckArgument

/-- The arguments of a check, and the paths behind two dashes where there are such. -/
structure CheckLine where
  front : List CheckArgument
  behind : Option (List NativeText) := none
  deriving Repr, DecidableEq

def CheckLine.arguments (line : CheckLine) : List NativeText :=
  line.front.map CheckArgument.text ++ line.behind.elim [] (.ofText "--" :: ·)

/-- The line says what the options say. Paths and disabled rules stand in their order; the format
may be left out where it is the plain one. -/
structure CheckOptions.WrittenAs (options : CheckOptions) (line : CheckLine) : Prop where
  paths : line.front.filterMap CheckArgument.path? ++ line.behind.getD [] =
    options.paths.map Path.spelling
  config : line.front.filterMap CheckArgument.config? = options.config.toList.map Path.spelling
  format : line.front.filterMap CheckArgument.format? = [options.format] ∨
    (line.front.filterMap CheckArgument.format? = [] ∧ options.format = .plain)
  disable : line.front.filterMap CheckArgument.disable? = options.disable
  verbose : (line.front.filterMap CheckArgument.verbose?).length = options.verbose.toNat
  /-- A path that begins with a dash stands behind two dashes. -/
  undashed : ∀ text, .path text ∈ line.front → text.octets.head? ≠ some Argument.dash

theorem follows_front {front : List CheckArgument} (hfront : ∀ a ∈ front, a.Proper) :
    Reading.Follows false ((front.map CheckArgument.text).foldlM (Reading.step .check) {})
      (front.foldlM CheckArgument.apply {}) :=
  Reading.Holds.fronts (.settled {}) hfront

theorem read_of_repeats {line : CheckLine} (hfront : ∀ a ∈ line.front, a.Proper)
    (h : CheckArgument.Repeats line.front) :
    Dialect.check.read line.arguments = .error .repeatedOption := by
  have hfollows := follows_front hfront
  rw [(CheckArgument.foldlM_apply hfront).1 h] at hfollows
  have hread : (line.front.map CheckArgument.text).foldlM (Reading.step .check) {} =
      .error .repeatedOption := hfollows
  rw [Dialect.read, CheckLine.arguments, List.foldlM_append, hread]
  rfl

theorem read_of_not_repeats {line : CheckLine} (hfront : ∀ a ∈ line.front, a.Proper)
    (hbehind : .ofText "" ∉ line.behind.getD []) (h : ¬ CheckArgument.Repeats line.front) :
    Dialect.check.read line.arguments =
      .ok { Settings.ofFront line.front with
        paths := (Settings.ofFront line.front).paths ++ (line.behind.getD []).map Path.mk } := by
  have hfollows := follows_front hfront
  rw [(CheckArgument.foldlM_apply hfront).2 h] at hfollows
  obtain ⟨r, hread, hr⟩ := hfollows
  obtain ⟨separated, r', hrest, hr'⟩ := hr.rest hbehind
  have hall : line.arguments.foldlM (Reading.step .check) {} = .ok r' := by
    rw [CheckLine.arguments, List.foldlM_append, hread]
    exact hrest
  rw [Dialect.read, hall]
  change (r'.settle >>= fun r => pure r.settings) = _
  rw [hr'.settle]
  rfl

namespace CheckOptions.WrittenAs

variable {options : CheckOptions} {line : CheckLine} (h : options.WrittenAs line)

include h

theorem proper (hpaths : ∀ path ∈ options.paths, path.spelling ≠ "")
    (hconfig : ∀ path ∈ options.config, path.spelling ≠ "") : ∀ a ∈ line.front, a.Proper := by
  intro a ha
  cases a with
  | path text =>
      have hmem : text ∈ options.paths.map Path.spelling := by
        rw [← h.paths]
        exact List.mem_append_left _ (List.mem_filterMap.mpr ⟨_, ha, rfl⟩)
      obtain ⟨path, hpath, rfl⟩ := List.mem_map.mp hmem
      exact ⟨hpaths path hpath, h.undashed _ ha⟩
  | config file =>
      have hmem : file ∈ options.config.toList.map Path.spelling := by
        rw [← h.config]
        exact List.mem_filterMap.mpr ⟨_, ha, rfl⟩
      obtain ⟨path, hpath, rfl⟩ := List.mem_map.mp hmem
      exact hconfig path (Option.mem_toList.mp hpath)
  | format _ | disable _ | verbose _ => trivial

theorem behind (hpaths : ∀ path ∈ options.paths, path.spelling ≠ "") :
    .ofText "" ∉ line.behind.getD [] := by
  intro hmem
  have hempty : .ofText "" ∈ options.paths.map Path.spelling := by
    rw [← h.paths]
    exact List.mem_append_right _ hmem
  obtain ⟨path, hpath, hspelling⟩ := List.mem_map.mp hempty
  exact hpaths path hpath hspelling

theorem not_repeats : ¬ CheckArgument.Repeats line.front := by
  have hconfig : (line.front.filterMap CheckArgument.config?).length ≤ 1 := by
    rw [h.config, List.length_map]
    cases options.config <;> simp
  have hformat : (line.front.filterMap CheckArgument.format?).length ≤ 1 := by
    rcases h.format with hformat | ⟨hformat, -⟩ <;> simp [hformat]
  have hverbose : (line.front.filterMap CheckArgument.verbose?).length ≤ 1 := by
    rw [h.verbose]
    exact options.verbose.toNat_le
  rw [CheckArgument.Repeats]
  omega

theorem checkOptions_eq :
    Settings.checkOptions { Settings.ofFront line.front with
      paths := (Settings.ofFront line.front).paths ++ (line.behind.getD []).map Path.mk } =
      options := by
  have hmk : Path.mk ∘ Path.spelling = id := rfl
  have hpaths : (line.front.filterMap CheckArgument.path?).map Path.mk ++
      (line.behind.getD []).map Path.mk = options.paths := by
    rw [← List.map_append, h.paths, List.map_map, hmk, List.map_id]
  have hconfig : (line.front.filterMap CheckArgument.config?).head?.map Path.mk =
      options.config := by
    rw [h.config]
    cases options.config <;> rfl
  have hformat : (line.front.filterMap CheckArgument.format?).head?.getD .plain =
      options.format := by
    rcases h.format with hformat | ⟨hformat, hplain⟩
    · rw [hformat]
      rfl
    · rw [hformat, hplain]
      rfl
  have hverbose : (!(line.front.filterMap CheckArgument.verbose?).isEmpty) = options.verbose := by
    have hlength := h.verbose
    cases hv : options.verbose <;>
      cases hgiven : line.front.filterMap CheckArgument.verbose? <;> simp_all
  cases options
  simp only [Settings.checkOptions, Settings.ofFront, CheckOptions.mk.injEq]
  exact ⟨hpaths, hconfig, hformat, h.disable, hverbose⟩

end CheckOptions.WrittenAs

/-- Every check can be written, with its paths behind two dashes. -/
theorem CheckOptions.exists_writtenAs (options : CheckOptions) :
    ∃ line, options.WrittenAs line := by
  obtain ⟨paths, config, format, disable, verbose⟩ := options
  have hnone {α β : Type} (l : List α) : l.filterMap (fun _ => (none : Option β)) = [] :=
    List.filterMap_eq_nil_iff.mpr fun _ _ => rfl
  refine ⟨⟨config.toList.map (fun path => .config path.spelling) ++ .format format ::
    disable.map .disable ++ List.replicate verbose.toNat (.verbose false),
    some (paths.map Path.spelling)⟩, ?_⟩
  constructor
  all_goals
    simp [List.filterMap_map, Function.comp_def, List.filterMap_replicate, List.filterMap_cons,
      hnone]

namespace Command

/-- A check is read back from the arguments that it is written as, in whatever order they stand.
Where an option that may be given once is repeated the arguments are refused for that. -/
theorem parse_written :
    (∀ (options : CheckOptions) (line : CheckLine), options.WrittenAs line →
      (∀ path ∈ options.paths, path.spelling ≠ "") →
      (∀ path ∈ options.config, path.spelling ≠ "") →
      parse ("check" :: line.arguments) = .ok (.check options)) ∧
    (∀ options : CheckOptions, ∃ line, options.WrittenAs line) ∧
    ∀ line : CheckLine, (∀ a ∈ line.front, a.Proper) → CheckArgument.Repeats line.front →
      parse ("check" :: line.arguments) = .error .repeatedOption := by
  refine ⟨fun options line h hpaths hconfig => ?_, CheckOptions.exists_writtenAs,
    fun line hfront h => ?_⟩
  · rw [parse_check, read_of_not_repeats (h.proper hpaths hconfig) (h.behind hpaths) h.not_repeats]
    exact congrArg (fun options => Except.ok (Command.check options)) h.checkOptions_eq
  · rw [parse_check, read_of_repeats hfront h]
    rfl

/-- Values with equals signs, without text and with the look of options, and paths that look like
subcommands, options and the two dashes. -/
theorem parse_lookalikes :
    parse ["check", "--disable=", "a=b", "-v", "--config==x", "help", "--disable=--format=plain",
        "--format=json", "--", "--verbose", "--", "-"] =
      .ok (.check
        { paths := [⟨"a=b"⟩, ⟨"help"⟩, ⟨"--verbose"⟩, ⟨"--"⟩, ⟨"-"⟩], config := some ⟨"=x"⟩,
          format := .json, disable := ["", "--format=plain"], verbose := true }) ∧
      parse ["check", "-v", "A.kt", "--verbose"] = .error .repeatedOption := by
  obtain ⟨hread, -, hrepeats⟩ := parse_written
  refine ⟨hread _ ⟨[.disable "", .path "a=b", .verbose true, .config "=x", .path "help",
    .disable "--format=plain", .format .json], some ["--verbose", "--", "-"]⟩
    ⟨rfl, rfl, .inl rfl, rfl, rfl, ?_⟩ ?_ ?_,
    hrepeats ⟨[.verbose true, .path "A.kt", .verbose false], none⟩ ?_ ?_⟩
  · have hpaths : (NativeText.ofText "a=b").octets.head? ≠ some Argument.dash ∧
        (NativeText.ofText "help").octets.head? ≠ some Argument.dash := by decide
    simpa using hpaths
  · simp
  · simp
  · have hpath : (NativeText.ofText "A.kt").octets.head? ≠ some Argument.dash := by decide
    simpa [CheckArgument.Proper] using hpath
  · exact .inr (.inr (by decide))

end Command
end NamingLint
