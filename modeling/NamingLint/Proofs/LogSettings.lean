import NamingLint.Proofs.CheckReport
import NamingLint.Proofs.Results

/-!
What the log settings have a say in: the variables that select records, and the flag that asks for
more of them. They choose among the records on the error stream and touch nothing else of a run,
whatever was read before. Which records a filter lets through is not said here.
-/

namespace NamingLint

/-- Outcomes that differ at most in the log records on the error stream. -/
structure Outcome.SameButLog (a b : Outcome) : Prop where
  exitCode : a.exitCode = b.exitCode
  output : a.output = b.output
  notes : ∃ (shown shown' : List Log.Record) (notes : List String),
    a.notes = shown.map Log.Record.render ++ notes ∧
      b.notes = shown'.map Log.Record.render ++ notes

theorem Outcome.SameButLog.refl (a : Outcome) : a.SameButLog a where
  exitCode := rfl
  output := rfl
  notes := ⟨[], [], a.notes, rfl, rfl⟩

theorem Response.sameButLog_outcome (r : Response) (log log' : List Log.Record)
    (filter filter' : Log.Filter) :
    (({ r with log } : Response).outcome filter).SameButLog
      (({ r with log := log' } : Response).outcome filter') where
  exitCode := rfl
  output := rfl
  notes := ⟨log.filter filter.shows, log'.filter filter'.shows, r.notes, rfl, rfl⟩

/-- Whether the argument raises the flag for more records. -/
def Argument.asksVerbose : Argument → Bool
  | .long name _ => name == "verbose"
  | .short letters => letters.contains 'v'.toUInt8
  | .separator | .word => false

/-- Behind two dashes there are only paths. -/
def asksVerbose (arguments : List NativeText) : Bool :=
  ((arguments.map Argument.ofText).takeWhile fun a => a ≠ .separator).any Argument.asksVerbose

theorem asksVerbose_cons (text : NativeText) (rest : List NativeText) :
    asksVerbose (text :: rest) =
      (decide (Argument.ofText text ≠ .separator) &&
        ((Argument.ofText text).asksVerbose || asksVerbose rest)) := by
  unfold asksVerbose
  by_cases h : Argument.ofText text = .separator <;> simp [h]

namespace Settings

/-- The same settings with the flag as given. -/
def mark (verbose : Bool) (s : Settings) : Settings := { s with verbose }

variable (verbose : Bool) (s : Settings)

theorem set_mark (value : NativeText) (option : ValueOption) :
    (s.mark verbose).set value option = (s.set value option).map (mark verbose) := by
  cases option with
  | config =>
      cases hconfig : s.config with
      | some path => simp [set, setConfig, mark, hconfig, Except.map]
      | none => by_cases h : value = "" <;> simp [set, setConfig, mark, hconfig, h, Except.map]
  | format =>
      cases hformat : s.format with
      | some format => simp [set, setFormat, mark, hformat, Except.map]
      | none =>
          cases h : Report.Format.ofName? value <;>
            simp [set, setFormat, mark, hformat, h, Except.map]
  | disable => cases h : value.text? <;> simp [set, addDisabled, mark, h, Except.map]

theorem addPaths_mark (paths : List NativeText) :
    (s.mark verbose).addPaths paths = (s.addPaths paths).map (mark verbose) := by
  cases h : paths.contains "" <;> simp only [addPaths, mark, h] <;> rfl

end Settings

theorem Pending.settle_mark (verbose : Bool) (p : Pending) (s : Settings) :
    p.settle (s.mark verbose) = (p.settle s).map (Settings.mark verbose) := by
  cases p with
  | nothing | awaiting _ => rfl
  | given option value => exact s.set_mark verbose value option
  | paths values => exact s.addPaths_mark verbose values

namespace Reading

/-- The same reading with the flag and the note on two dashes as given. -/
def mark (verbose separated : Bool) (r : Reading) : Reading :=
  { r with settings := r.settings.mark verbose, separated }

theorem mark_self (r : Reading) : r.mark r.settings.verbose r.separated = r := rfl

/-- A result of a reading that is the same up to marks has the marks of the reading. -/
theorem marks_of_mark {r r' : Reading} (f : Reading → Except UsageError Reading)
    (comm : ∀ verbose separated,
      f (r.mark verbose separated) = (f r).map (mark verbose separated))
    (h : f r = .ok r') :
    r'.settings.verbose = r.settings.verbose ∧ r'.separated = r.separated := by
  have hmark := comm r.settings.verbose r.separated
  rw [mark_self, h] at hmark
  have heq : r' = r'.mark r.settings.verbose r.separated := Except.ok.inj hmark
  exact ⟨(congrArg (fun r => r.settings.verbose) heq :), (congrArg separated heq :)⟩

section Mark

variable (verbose separated : Bool) (r : Reading)

theorem settle_mark :
    (r.mark verbose separated).settle = r.settle.map (mark verbose separated) := by
  unfold settle mark
  rw [r.pending.settle_mark verbose r.settings]
  cases r.pending.settle r.settings <;> rfl

/-- What is done once the pending values are settled. -/
theorem settle_bind_mark {next : Reading → Except UsageError Reading}
    (comm : ∀ r, next (r.mark verbose separated) = (next r).map (mark verbose separated)) :
    (r.mark verbose separated).settle >>= next =
      (r.settle >>= next).map (mark verbose separated) := by
  rw [settle_mark]
  exact bind_map_comm comm r.settle

theorem path_mark (dialect : Dialect) (text : NativeText) :
    (r.mark verbose separated).path dialect text =
      (r.path dialect text).map (mark verbose separated) := by
  unfold path
  cases dialect.takesPaths with
  | false => rfl
  | true =>
      cases hpending : r.pending with
      | paths values => simp [mark, hpending, Except.map]
      | nothing | awaiting _ | given _ _ =>
          simp only [↓reduceIte, show (r.mark verbose separated).pending = r.pending from rfl,
            hpending]
          exact settle_bind_mark verbose separated r fun _ => rfl

theorem word_mark (dialect : Dialect) (text : NativeText) :
    (r.mark verbose separated).word dialect text =
      (r.word dialect text).map (mark verbose separated) := by
  unfold word
  cases hpending : r.pending with
  | awaiting option => simp [mark, hpending, Except.map]
  | nothing | given _ _ | paths _ =>
      simp only [show (r.mark verbose separated).pending = r.pending from rfl, hpending]
      exact path_mark verbose separated r dialect text

theorem option_mark (option : ValueOption) (value : Option NativeText) :
    (r.mark verbose separated).option option value =
      (r.option option value).map (mark verbose separated) := by
  cases value with
  | none => exact settle_bind_mark verbose separated r fun _ => rfl
  | some value =>
      refine settle_bind_mark verbose separated r fun r => ?_
      unfold mark
      rw [r.settings.set_mark verbose value option]
      cases r.settings.set value option <;> rfl

theorem raise_help_mark :
    (r.mark verbose separated).raise .help = (r.raise .help).map (mark verbose separated) :=
  settle_bind_mark verbose separated r fun _ => rfl

theorem long_mark {name : NativeText} (h : (name == "verbose") = false)
    (attached : Option NativeText) :
    (r.mark verbose separated).long .check name attached =
      (r.long .check name attached).map (mark verbose separated) := by
  unfold long
  cases Dialect.check.options.lookup name with
  | some option => exact option_mark verbose separated r option attached
  | none =>
      cases hflag : Dialect.check.flags.lookup name with
      | none => rfl
      | some flag =>
          cases attached with
          | some _ => rfl
          | none =>
              cases flag with
              | help => exact raise_help_mark verbose separated r
              | verbose =>
                  exfalso
                  revert hflag
                  simp only [Dialect.check, List.lookup_cons, List.lookup_nil, h]
                  split <;> simp

theorem letter_mark {octet : UInt8} (h : octet ≠ 'v'.toUInt8) :
    (r.mark verbose separated).letter .check octet =
      (r.letter .check octet).map (mark verbose separated) := by
  unfold letter
  cases hflag : Dialect.check.letters.lookup octet with
  | none => rfl
  | some flag =>
      cases flag with
      | help => exact raise_help_mark verbose separated r
      | verbose =>
          exfalso
          revert hflag
          simp only [Dialect.check, List.lookup_cons, List.lookup_nil, beq_false_of_ne h]
          split <;> simp

theorem letters_mark (letters : List UInt8) (h : 'v'.toUInt8 ∉ letters) :
    letters.foldlM (letter .check) (r.mark verbose separated) =
      (letters.foldlM (letter .check) r).map (mark verbose separated) := by
  induction letters generalizing r with
  | nil => rfl
  | cons octet letters ih =>
      rw [List.mem_cons, not_or] at h
      rw [List.foldlM_cons, List.foldlM_cons, letter_mark verbose separated r (Ne.symm h.1)]
      exact bind_map_comm (fun r => ih r h.2) _

end Mark

/-- The same reading with the flag as given. -/
def flagged (verbose : Bool) (r : Reading) : Reading := r.mark verbose r.separated

/-- What a step does that does not raise the flag. -/
structure Quiet (r : Reading) (text : NativeText) : Prop where
  commutes : ∀ verbose,
    (r.flagged verbose).step .check text = (r.step .check text).map (flagged verbose)
  kept : ∀ r', r.step .check text = .ok r' → r'.settings.verbose = r.settings.verbose ∧
    r'.separated = (r.separated || decide (Argument.ofText text = .separator))

variable {r r' : Reading} {text : NativeText}

theorem quiet_of_mark (f : Reading → Except UsageError Reading)
    (does : ∀ verbose, (r.flagged verbose).step .check text = f (r.flagged verbose))
    (comm : ∀ verbose separated, f (r.mark verbose separated) = (f r).map (mark verbose separated))
    (h : r.separated = true ∨ Argument.ofText text ≠ .separator) : Quiet r text := by
  have hdoes : r.step .check text = f r := does r.settings.verbose
  constructor
  · intro verbose
    rw [does verbose, hdoes, flagged, comm verbose r.separated]
    cases hresult : f r with
    | error e => rfl
    | ok r' =>
        obtain ⟨-, hseparated⟩ := marks_of_mark f comm hresult
        simp only [Except.map, flagged, hseparated]
  · intro r' hstep
    obtain ⟨hverbose, hseparated⟩ := marks_of_mark f comm (hdoes.symm.trans hstep)
    refine ⟨hverbose, ?_⟩
    rcases h with h | h <;> simp [hseparated, h]

theorem step_separated (h : r.separated = true) (text : NativeText) :
    r.step .check text = r.path .check text := by
  simp [step, h]

/-- Before two dashes the shape of the argument decides. -/
theorem step_unseparated (h : r.separated = false) (text : NativeText) :
    r.step .check text =
      match Argument.ofText text with
      | .separator => .ok { r with separated := true }
      | .long name attached => r.long .check name attached
      | .short letters => letters.foldlM (letter .check) r
      | .word => r.word .check text := by
  unfold step
  exact if_neg (by simp [h])

theorem quiet_of_not_asksVerbose
    (h : r.separated = true ∨ (Argument.ofText text).asksVerbose = false) : Quiet r text := by
  cases hseparated : r.separated with
  | true =>
      exact quiet_of_mark (path .check · text)
        (fun verbose => step_separated (r := r.flagged verbose) hseparated text)
        (fun verbose separated => path_mark verbose separated r .check text) (.inl hseparated)
  | false =>
      have hquiet : (Argument.ofText text).asksVerbose = false := by simpa [hseparated] using h
      have hstep (verbose : Bool) := step_unseparated (r := r.flagged verbose) hseparated text
      cases hargument : Argument.ofText text with
      | separator =>
          simp only [hargument] at hstep
          have hdoes : r.step .check text = _ := hstep r.settings.verbose
          constructor
          · intro verbose
            rw [hstep, hdoes]
            rfl
          · intro r' hr'
            rw [← Except.ok.inj (hdoes.symm.trans hr'), hargument]
            exact ⟨rfl, by simp⟩
      | long name attached =>
          simp only [hargument] at hstep hquiet
          exact quiet_of_mark (long .check · name attached) hstep
            (fun verbose separated => long_mark verbose separated r hquiet attached)
            (.inr (by simp [hargument]))
      | short letters =>
          simp only [hargument] at hstep hquiet
          have hletters : 'v'.toUInt8 ∉ letters := by simpa [Argument.asksVerbose] using hquiet
          exact quiet_of_mark (letters.foldlM (letter .check) ·) hstep
            (fun verbose separated => letters_mark verbose separated r letters hletters)
            (.inr (by simp [hargument]))
      | word =>
          simp only [hargument] at hstep
          exact quiet_of_mark (word .check · text) hstep
            (fun verbose separated => word_mark verbose separated r .check text)
            (.inr (by simp [hargument]))

/-- Arguments that do not raise the flag are read alike whether it is up or not. -/
theorem steps_flagged (verbose : Bool) (arguments : List NativeText) (r : Reading)
    (h : r.separated = true ∨ asksVerbose arguments = false) :
    arguments.foldlM (step .check) (r.flagged verbose) =
      (arguments.foldlM (step .check) r).map (flagged verbose) := by
  induction arguments generalizing r with
  | nil => rfl
  | cons text rest ih =>
      rw [asksVerbose_cons, Bool.and_eq_false_iff, Bool.or_eq_false_iff, decide_eq_false_iff_not,
        Decidable.not_not] at h
      have hquiet : Quiet r text := by
        refine quiet_of_not_asksVerbose ?_
        rcases h with h | h | h
        · exact .inl h
        · exact .inr (by rw [h]; rfl)
        · exact .inr h.1
      rw [List.foldlM_cons, List.foldlM_cons, hquiet.commutes verbose]
      cases hstep : r.step .check text with
      | error e => rfl
      | ok r' =>
          have hseparated := (hquiet.kept r' hstep).2
          refine ih r' ?_
          rcases h with h | h | h
          · exact .inl (by simp [hseparated, h])
          · exact .inl (by simp [hseparated, h])
          · exact .inr h.2

theorem settle_kept (h : r.settle = .ok r') :
    r'.settings.verbose = r.settings.verbose ∧ r'.separated = r.separated :=
  marks_of_mark settle (fun verbose separated => settle_mark verbose separated r) h

theorem raise_verbose_kept (h : r.raise .verbose = .ok r') :
    r'.settings.verbose = true ∧ r'.separated = r.separated := by
  obtain ⟨settled, hsettled, h⟩ := bind_eq_ok h
  obtain ⟨settings, hsettings, h⟩ := bind_eq_ok h
  obtain rfl := Except.ok.inj h
  refine ⟨?_, (settle_kept hsettled).2⟩
  cases hraised : settled.settings.verbose with
  | true => simp [Settings.raise, hraised] at hsettings
  | false =>
      obtain rfl : { settled.settings with verbose := true } = settings := by
        simpa [Settings.raise, hraised] using hsettings
      rfl

theorem letters_kept (letters : List UInt8) (h : letters.foldlM (letter .check) r = .ok r') :
    r'.settings.verbose = (r.settings.verbose || letters.contains 'v'.toUInt8) ∧
      r'.separated = r.separated := by
  induction letters generalizing r with
  | nil =>
      obtain rfl : r = r' := Except.ok.inj h
      simp
  | cons octet letters ih =>
      obtain ⟨next, hnext, h⟩ := bind_eq_ok h
      obtain ⟨hverbose, hseparated⟩ := ih h
      by_cases hoctet : octet = 'v'.toUInt8
      · subst hoctet
        obtain ⟨hraised, hkept⟩ := raise_verbose_kept hnext
        exact ⟨by simp [hverbose, hraised], hseparated.trans hkept⟩
      · obtain ⟨hraised, hkept⟩ :=
          marks_of_mark (letter .check · octet)
            (fun verbose separated => letter_mark verbose separated r hoctet) hnext
        exact ⟨by simp [hverbose, hraised, Ne.symm hoctet], hseparated.trans hkept⟩

/-- The flag is raised by the arguments that ask for it, and by no others. -/
theorem step_kept (h : r.step .check text = .ok r') :
    r'.settings.verbose =
        (r.settings.verbose || (!r.separated && (Argument.ofText text).asksVerbose)) ∧
      r'.separated = (r.separated || decide (Argument.ofText text = .separator)) := by
  by_cases hquiet : r.separated = true ∨ (Argument.ofText text).asksVerbose = false
  · obtain ⟨hverbose, hseparated⟩ := (quiet_of_not_asksVerbose hquiet).kept r' h
    refine ⟨?_, hseparated⟩
    rcases hquiet with hquiet | hquiet <;> simp [hverbose, hquiet]
  · rw [not_or, Bool.not_eq_true, Bool.not_eq_false] at hquiet
    obtain ⟨hseparated, hasks⟩ := hquiet
    rw [step_unseparated hseparated] at h
    cases hargument : Argument.ofText text with
    | separator | word => simp [hargument, Argument.asksVerbose] at hasks
    | long name attached =>
        rw [hargument] at h hasks
        obtain rfl : name = "verbose" := eq_of_beq hasks
        cases attached with
        | some value => cases h
        | none =>
            obtain ⟨hverbose, hkept⟩ := raise_verbose_kept h
            simp [hverbose, hkept, hseparated, Argument.asksVerbose]
    | short letters =>
        rw [hargument] at h hasks
        obtain ⟨hverbose, hkept⟩ := letters_kept letters h
        simp [hverbose, hkept, hseparated, Argument.asksVerbose]

theorem steps_kept (arguments : List NativeText) (h : arguments.foldlM (step .check) r = .ok r') :
    r'.settings.verbose = (r.settings.verbose || (!r.separated && asksVerbose arguments)) := by
  induction arguments generalizing r with
  | nil =>
      obtain rfl : r = r' := Except.ok.inj h
      simp [asksVerbose]
  | cons text rest ih =>
      obtain ⟨next, hnext, h⟩ := bind_eq_ok h
      obtain ⟨hverbose, hseparated⟩ := step_kept hnext
      rw [ih h, hverbose, hseparated, asksVerbose_cons]
      by_cases hseparator : Argument.ofText text = .separator
      · simp [hseparator, Argument.asksVerbose]
      · cases r.separated <;> simp [hseparator, Bool.or_assoc]

end Reading

theorem Dialect.read_eq_ok {arguments : List NativeText} {s : Settings}
    (h : Dialect.check.read arguments = .ok s) : s.verbose = asksVerbose arguments := by
  obtain ⟨r, hr, h⟩ := bind_eq_ok h
  obtain ⟨settled, hsettled, h⟩ := bind_eq_ok h
  obtain rfl := Except.ok.inj h
  rw [(Reading.settle_kept hsettled).1, Reading.steps_kept arguments hr]
  rfl

/-- The flag in front changes nothing but itself where it is not raised again. -/
theorem Dialect.read_raised {flag : NativeText}
    (hflag : flag ∈ (["--verbose", "-v"] : List NativeText))
    {arguments : List NativeText} (h : asksVerbose arguments = false) :
    Dialect.check.read (flag :: arguments) =
      (Dialect.check.read arguments).map (Settings.mark true) := by
  have hfirst : Reading.step .check {} flag = .ok (Reading.flagged true {}) := by
    simp only [List.mem_cons, List.not_mem_nil, or_false] at hflag
    rcases hflag with rfl | rfl <;> rfl
  unfold Dialect.read
  rw [List.foldlM_cons, hfirst]
  change arguments.foldlM (Reading.step .check) (Reading.flagged true {}) >>= _ = _
  rw [Reading.steps_flagged true arguments {} (.inr h)]
  refine bind_map_comm (fun r => ?_) _
  rw [Reading.flagged, Reading.settle_mark]
  cases r.settle <;> rfl

namespace Command

open FileSystem (oneFile)

variable (fs : FileSystem) (environment environment' : Environment)

/-- The environment is asked for log settings only, and a command is known by its response. -/
theorem run_sameButLog {arguments arguments' : List NativeText}
    (h : (parse arguments).map (respond fs) = (parse arguments').map (respond fs)) :
    (run fs environment arguments).SameButLog (run fs environment' arguments') := by
  unfold run
  cases hparse : parse arguments with
  | error e =>
      cases hparse' : parse arguments' with
      | ok command => simp [hparse, hparse', Except.map] at h
      | error e' =>
          rw [hparse, hparse'] at h
          rw [Except.error.inj h]
          exact .refl (usageOutcome e')
  | ok command =>
      cases hparse' : parse arguments' with
      | error e => simp [hparse, hparse', Except.map] at h
      | ok command' =>
          have hrespond : respond fs command = respond fs command' := by
            simpa [hparse, hparse', Except.map] using h
          simp only [hrespond]
          exact (respond fs command').sameButLog_outcome _ _ _ _

theorem parse_check (arguments : List NativeText) :
    parse ("check" :: arguments) =
      (Dialect.check.read arguments).map fun s => .check s.checkOptions := by
  unfold parse
  change Dialect.check.read arguments >>= _ = _
  cases Dialect.check.read arguments <;> rfl

theorem respond_raised {flag : NativeText}
    (hflag : flag ∈ (["--verbose", "-v"] : List NativeText))
    {arguments : List NativeText} (h : asksVerbose arguments = false) :
    (parse ("check" :: flag :: arguments)).map (respond fs) =
      (parse ("check" :: arguments)).map (respond fs) := by
  rw [parse_check, parse_check, Dialect.read_raised hflag h]
  cases Dialect.check.read arguments <;> rfl

/-- Log settings change the log records on the error stream at most: neither the environment nor
the flag in front of the other arguments of a check has a say in what is printed and in the exit
code. The flag is taken to be given already exactly where the command says so. -/
theorem run_logSettings (arguments : List NativeText) :
    (run fs environment arguments).SameButLog (run fs environment' arguments) ∧
      (asksVerbose arguments = false → ∀ flag ∈ (["--verbose", "-v"] : List NativeText),
        (run fs environment ("check" :: arguments)).SameButLog
          (run fs environment' ("check" :: flag :: arguments))) ∧
      ∀ options, parse ("check" :: arguments) = .ok (.check options) →
        options.verbose = asksVerbose arguments := by
  refine ⟨run_sameButLog fs environment environment' rfl, fun h flag hflag => ?_,
    fun options hparse => ?_⟩
  · exact run_sameButLog fs environment environment' (respond_raised fs hflag h).symm
  · rw [parse_check] at hparse
    cases hread : Dialect.check.read arguments with
    | error e => simp [hread, Except.map] at hparse
    | ok s =>
        obtain rfl : s.checkOptions = options := by simpa [hread, Except.map] using hparse
        exact Dialect.read_eq_ok hread

/-- With records switched off and with the flag the error streams differ, and nothing else does. -/
theorem logSettings_oneFile :
    asksVerbose ["A.kt"] = false ∧
      (run oneFile [("KOLINT_LOG", "off")] ["check", "A.kt"]).SameButLog
        (run oneFile [] ["check", "--verbose", "A.kt"]) ∧
      (run oneFile [("KOLINT_LOG", "off")] ["check", "A.kt"]).notes ≠
        (run oneFile [] ["check", "--verbose", "A.kt"]).notes := by
  have hquiet : asksVerbose ["A.kt"] = false := by decide
  obtain ⟨-, hraised, -⟩ := run_logSettings oneFile [("KOLINT_LOG", "off")] [] ["A.kt"]
  exact ⟨hquiet, hraised hquiet "--verbose" (by simp), by decide +kernel⟩

end Command
end NamingLint
