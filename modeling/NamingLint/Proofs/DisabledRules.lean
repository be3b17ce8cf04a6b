import NamingLint.Proofs.Preorder
import NamingLint.Proofs.RootLists
import NamingLint.Proofs.RuleRuns

/-!
What is left of a check when further rules are switched off. Every rule that runs has a block of its
own in the diagnostics; switching rules off takes the blocks of those rules out and leaves the other
ones as they were. So it matters which names are on the list of disabled rules, and neither in which
order they are, nor how often, nor whether the configuration or the command line has put them
there. Which names a rule answers to is not treated here.
-/

namespace NamingLint

open Syntax

namespace Rule

variable (rule : Rule)

/-- Visits a node and puts what is found at the end of a sink. -/
def pour (tank : rule.State × List Diagnostic) (node : Node) : rule.State × List Diagnostic :=
  let seen := rule.visit node tank.1
  (seen.state, tank.2 ++ seen.diagnostics)

/-- What the rule adds to a sink: the fold of its visits over the preorder, from a fresh state. -/
def emit (tree : Node) (sink : List Diagnostic) : List Diagnostic :=
  (tree.preorder.foldl rule.pour (rule.initial, sink)).2

/-- The diagnostics of the rule alone. -/
def block (tree : Node) : List Diagnostic :=
  rule.emit tree []

theorem foldl_pour (nodes : List Node) (state : rule.State) (sink : List Diagnostic) :
    (nodes.foldl rule.pour (state, sink)).2 = sink ++ (rule.visitAll state nodes).diagnostics := by
  induction nodes generalizing state sink with
  | nil => exact (List.append_nil sink).symm
  | cons node rest ih =>
      simp only [List.foldl_cons, pour, ih, List.append_assoc]
      rfl

theorem emit_eq (tree : Node) (sink : List Diagnostic) :
    rule.emit tree sink = sink ++ rule.block tree := by
  simp only [block, emit, foldl_pour, List.nil_append]

theorem diagnostics_check_eq_block (tree : Node) :
    (rule.check tree).diagnostics = rule.block tree := by
  simp only [block, emit, foldl_pour, List.nil_append, check, nodes_eq_preorder]

end Rule

namespace Config

theorem enables_iff (config : Config) (id : RuleId) :
    config.enables id = true ↔ ∀ name ∈ config.disabledRules, id.isNamed name = false := by
  simp [enables]

theorem enables_disable (config : Config) (names : List String) (id : RuleId) :
    (config.disable names).enables id =
      (config.enables id && decide (∀ name ∈ names, id.isNamed name = false)) := by
  rw [Bool.eq_iff_iff]
  simp only [Bool.and_eq_true, decide_eq_true_eq, enables_iff, disable, List.forall_mem_append]

/-- Two configurations enable the same rules when they disable the same names. -/
theorem enables_congr {a b : Config}
    (h : ∀ name, name ∈ a.disabledRules ↔ name ∈ b.disabledRules) : a.enables = b.enables := by
  funext id
  rw [Bool.eq_iff_iff]
  simp only [enables_iff, h]

end Config

namespace Engine

variable (sets : List RuleSet)

theorem rules_ofSets (config : Config) :
    (ofSets sets config).rules =
      (sets.flatMap RuleSet.rules).filter fun rule => config.enables rule.id :=
  rfl

theorem diagnostics_eq_blocks (engine : Engine) (tree : Node) :
    (engine.check tree).diagnostics = (engine.rules.map fun rule => rule.block tree).flatten := by
  obtain ⟨rules⟩ := engine
  induction rules with
  | nil => rfl
  | cons rule rest ih =>
      rw [List.map_cons, List.flatten_cons, ← ih, ← Rule.diagnostics_check_eq_block]
      rfl

/-- The rules of an engine write into one sink, one after the other. -/
theorem foldl_emit (engine : Engine) (tree : Node) :
    engine.rules.foldl (fun sink rule => rule.emit tree sink) [] =
      (engine.check tree).diagnostics := by
  have hsink (rules : List Rule) (sink : List Diagnostic) :
      rules.foldl (fun sink rule => rule.emit tree sink) sink =
        sink ++ (rules.map fun rule => rule.block tree).flatten := by
    induction rules generalizing sink with
    | nil => simp
    | cons rule rest ih => simp [Rule.emit_eq]
  rw [hsink, diagnostics_eq_blocks, List.nil_append]

/-- Switching names off takes away the rules that answer to one of them. -/
theorem rules_ofSets_disable (config : Config) (names : List String) :
    (ofSets sets (config.disable names)).rules =
      (ofSets sets config).rules.filter fun rule =>
        decide (∀ name ∈ names, rule.id.isNamed name = false) := by
  simp only [rules_ofSets, List.filter_filter, Config.enables_disable, Bool.and_comm]

theorem ofSets_disable_of_unnamed {config : Config} {names : List String}
    (h : ∀ rule ∈ sets.flatMap RuleSet.rules, ∀ name ∈ names, rule.id.isNamed name = false) :
    ofSets sets (config.disable names) = ofSets sets config := by
  refine congrArg Engine.mk ?_
  refine (rules_ofSets_disable sets config names).trans (List.filter_eq_self.mpr ?_)
  intro rule hrule
  exact decide_eq_true (h rule (List.mem_of_mem_filter hrule))

theorem ofSets_congr {a b : Config}
    (h : ∀ name, name ∈ a.disabledRules ↔ name ∈ b.disabledRules) :
    ofSets sets a = ofSets sets b := by
  unfold ofSets
  rw [Config.enables_congr h]

end Engine

namespace Discovery

variable {a b : Config}

mutual

theorem found_congr (hextensions : a.extensions = b.extensions)
    (hexclude : a.excludeDirs = b.excludeDirs) (path : Path) (name : NativeText) :
    (entry : Entry) → found a path name entry = found b path name entry
  | .file _ | .sealedFile => by
      unfold found accepts Config.acceptsExtension
      rw [hextensions]
  | .directory entries => by
      unfold found Config.excludesDir
      rw [hexclude, foundIn_congr hextensions hexclude path entries]
  | .link _ | .sealedDirectory | .device => by
      unfold found
      rfl

theorem foundIn_congr (hextensions : a.extensions = b.extensions)
    (hexclude : a.excludeDirs = b.excludeDirs) (directory : Path) :
    (entries : List (NativeText × Entry)) →
      foundIn a directory entries = foundIn b directory entries
  | [] => by
      unfold foundIn
      rfl
  | (name, entry) :: rest => by
      unfold foundIn
      rw [found_congr hextensions hexclude, foundIn_congr hextensions hexclude directory rest]

end

/-- The names of disabled rules have no say in which files are collected. -/
theorem files_congr (hextensions : a.extensions = b.extensions)
    (hexclude : a.excludeDirs = b.excludeDirs) (fs : FileSystem) (roots : List Path) :
    files fs a roots = files fs b roots := by
  have hroot : ofRoot fs a = ofRoot fs b := by
    funext root
    unfold ofRoot
    simp only [foundIn_congr hextensions hexclude]
  unfold files
  rw [hroot]

end Discovery

namespace Command

variable {fs : FileSystem}

/-- The names of the command line come after those of the file, and nothing else changes. -/
theorem loadConfig_eq_map (requested : Option Path) (disable : List String) :
    loadConfig fs requested disable =
      (loadConfig fs requested []).map fun file => file.disable disable := by
  unfold loadConfig
  cases requested with
  | none =>
      cases Config.loadOrDefault fs defaultConfig <;> simp [Except.map, Config.disable]
  | some path =>
      cases h : Config.load fs path <;> simp [h, Except.map, Config.disable]

theorem loadConfig_of_file {requested : Option Path} {file : Config}
    (h : loadConfig fs requested [] = .ok file) (disable : List String) :
    loadConfig fs requested disable = .ok (file.disable disable) := by
  rw [loadConfig_eq_map, h]
  rfl

theorem violationsOf_of_engine {a b : Config}
    (h : Engine.ofSets RuleSet.shipped a = Engine.ofSets RuleSet.shipped b) (files : List Path) :
    violationsOf fs a files = violationsOf fs b files := by
  have hblock : blockAt fs a = blockAt fs b := by
    funext path
    simp only [blockAt, block, h]
  unfold violationsOf
  rw [hblock]

/-- Two checks of the same files with the same rules answer the same. -/
theorem run_of_engine (environment : Environment) {arguments arguments' : List NativeText}
    {options options' : CheckOptions} {a b : Config}
    (h : parse arguments = .ok (.check options)) (h' : parse arguments' = .ok (.check options'))
    (hconfig : loadConfig fs options.config options.disable = .ok a)
    (hconfig' : loadConfig fs options'.config options'.disable = .ok b)
    (hengine : Engine.ofSets RuleSet.shipped a = Engine.ofSets RuleSet.shipped b)
    (hfiles : Discovery.files fs a (rootsOf options) = Discovery.files fs b (rootsOf options'))
    (hformat : options'.format = options.format) :
    (run fs environment arguments').output = (run fs environment arguments).output ∧
      (run fs environment arguments').exitCode = (run fs environment arguments).exitCode := by
  refine run_alike environment h h' hconfig hconfig' hformat (by rw [hfiles]) ?_
  intro collected collected' hcollected hcollected'
  obtain rfl : collected = collected' :=
    Except.ok.inj (hcollected.symm.trans (hfiles.trans hcollected'))
  exact violationsOf_of_engine hengine collected

end Command

/-- The diagnostics of a tree are the blocks of the rules that run, each rule writing into one sink
after the other. Names that are switched off take the blocks of their rules out. Only the set of
disabled names counts, wherever they were written, and a name without a rule does nothing. -/
theorem Engine.check_disable (sets : List RuleSet) :
    (∀ config tree,
      ((ofSets sets config).check tree).diagnostics =
          (ofSets sets config).rules.foldl (fun sink rule => rule.emit tree sink) [] ∧
        ((ofSets sets config).check tree).diagnostics =
          ((ofSets sets config).rules.map fun rule => rule.block tree).flatten) ∧
    (∀ config names tree,
      ((ofSets sets (config.disable names)).check tree).diagnostics =
        (((ofSets sets config).rules.filter fun rule =>
            decide (∀ name ∈ names, rule.id.isNamed name = false)).map
          fun rule => rule.block tree).flatten) ∧
    (∀ a b : Config, (∀ name, name ∈ a.disabledRules ↔ name ∈ b.disabledRules) →
      ∀ tree, (ofSets sets a).check tree = (ofSets sets b).check tree) ∧
    (∀ (config : Config) names,
      (∀ rule ∈ sets.flatMap RuleSet.rules, ∀ name ∈ names, rule.id.isNamed name = false) →
        ∀ tree, (ofSets sets (config.disable names)).check tree =
          (ofSets sets config).check tree) ∧
    (∀ fs requested requested' disable disable' file file',
      Command.loadConfig fs requested [] = .ok file →
      Command.loadConfig fs requested' [] = .ok file' →
      (∀ name, name ∈ file.disabledRules ++ disable ↔ name ∈ file'.disabledRules ++ disable') →
      Command.loadConfig fs requested disable = .ok (file.disable disable) ∧
        Command.loadConfig fs requested' disable' = .ok (file'.disable disable') ∧
        ∀ tree, (ofSets sets (file.disable disable)).check tree =
          (ofSets sets (file'.disable disable')).check tree) ∧
    (∀ fs environment arguments arguments' options options' file file',
      Command.parse arguments = .ok (.check options) →
      Command.parse arguments' = .ok (.check options') →
      Command.loadConfig fs options.config [] = .ok file →
      Command.loadConfig fs options'.config [] = .ok file' →
      file'.extensions = file.extensions → file'.excludeDirs = file.excludeDirs →
      (∀ name, name ∈ file.disabledRules ++ options.disable ↔
        name ∈ file'.disabledRules ++ options'.disable) →
      options'.paths = options.paths → options'.format = options.format →
      (Command.run fs environment arguments').output =
          (Command.run fs environment arguments).output ∧
        (Command.run fs environment arguments').exitCode =
          (Command.run fs environment arguments).exitCode) := by
  refine ⟨fun config tree => ⟨?_, diagnostics_eq_blocks _ tree⟩, fun config names tree => ?_,
    fun a b h tree => ?_, fun config names h tree => ?_, ?_, ?_⟩
  · exact (foldl_emit _ tree).symm
  · rw [diagnostics_eq_blocks, rules_ofSets_disable]
  · rw [ofSets_congr sets h]
  · rw [ofSets_disable_of_unnamed sets h]
  · intro fs requested requested' disable disable' file file' hfile hfile' hnames
    refine ⟨Command.loadConfig_of_file hfile disable,
      Command.loadConfig_of_file hfile' disable', fun tree => ?_⟩
    rw [ofSets_congr sets (b := file'.disable disable') hnames]
  · intro fs environment arguments arguments' options options' file file' h h' hfile hfile'
      hextensions hexclude hnames hpaths hformat
    have hroots : Command.rootsOf options' = Command.rootsOf options := by
      unfold Command.rootsOf
      rw [hpaths]
    have hengine : ofSets RuleSet.shipped (file.disable options.disable) =
        ofSets RuleSet.shipped (file'.disable options'.disable) :=
      ofSets_congr RuleSet.shipped hnames
    refine Command.run_of_engine environment h h' (Command.loadConfig_of_file hfile _)
      (Command.loadConfig_of_file hfile' _) hengine ?_ hformat
    rw [hroots]
    refine Discovery.files_congr ?_ ?_ fs _
    · exact hextensions.symm
    · exact hexclude.symm

namespace Engine

/-- A working directory with a bad name in a file and a configuration that switches the rule off. -/
def switchedOff : FileSystem where
  root := [("work", .directory
    [("A.kt", .file (NativeText.ofText "fun Foo() {}").octets),
     ("off.toml", .file (NativeText.ofText "disabled_rules = [\"function-naming\"]").octets)])]
  workingDirectory := ["work"]

/-- The naming rule is switched off by the file as by the command line, under its own name and
under its whole one; a name without a rule leaves it on. -/
theorem check_switchedOff :
    Command.loadConfig switchedOff (some ⟨"off.toml"⟩) [] =
        .ok { disabledRules := ["function-naming"] } ∧
      Command.loadConfig switchedOff none ["function-naming"] =
        .ok { disabledRules := ["function-naming"] } ∧
      (Command.run switchedOff [] ["check"]).exitCode = 1 ∧
      (Command.run switchedOff [] ["check", "--disable", "function-naming"]).exitCode = 0 ∧
      (Command.run switchedOff [] ["check", "--config", "off.toml"]).output =
        (Command.run switchedOff [] ["check", "--disable", "function-naming"]).output ∧
      (Command.run switchedOff [] ["check", "--config", "off.toml"]).exitCode =
        (Command.run switchedOff [] ["check", "--disable", "function-naming"]).exitCode ∧
      ∀ tree,
        ((ofSets RuleSet.shipped { disabledRules := ["function-naming"] }).check tree).diagnostics =
          [] ∧
        (ofSets RuleSet.shipped { disabledRules := ["function-naming"] }).check tree =
          (ofSets RuleSet.shipped
            { disabledRules := ["function-naming", "function-naming"] }).check tree ∧
        (ofSets RuleSet.shipped { disabledRules := ["FunctionNaming"] }).check tree =
          (ofSets RuleSet.shipped {}).check tree := by
  obtain ⟨-, hremoved, hset, hunnamed, hmoved, hreported⟩ := check_disable RuleSet.shipped
  have hnamed : Command.loadConfig switchedOff (some ⟨"off.toml"⟩) [] =
      .ok { disabledRules := ["function-naming"] } := by decide +kernel
  have hdefault : Command.loadConfig switchedOff none [] = .ok {} := by decide +kernel
  have hparse : Command.parse ["check", "--disable", "function-naming"] =
      .ok (.check { disable := ["function-naming"] }) := by decide +kernel
  have hparse' : Command.parse ["check", "--config", "off.toml"] =
      .ok (.check { config := some ⟨"off.toml"⟩ }) := by decide +kernel
  obtain ⟨hflag, -⟩ := hmoved switchedOff none (some ⟨"off.toml"⟩) ["function-naming"] [] _ _
    hdefault hnamed fun _ => Iff.rfl
  have hsame := hreported switchedOff [] _ _ _ _ _ _ hparse hparse' hdefault hnamed rfl rfl
    (fun _ => Iff.rfl) rfl rfl
  have hfiles (config : Config) (hextensions : config.extensions = ({} : Config).extensions)
      (hexclude : config.excludeDirs = ({} : Config).excludeDirs) :
      Discovery.files switchedOff config [⟨"."⟩] = .ok [⟨"./A.kt"⟩] := by
    rw [Discovery.files_congr hextensions hexclude]
    exact Discovery.files_eq_ok.mpr ⟨[[⟨"./A.kt"⟩]], rfl,
      (Discovery.arrange_of_pairwise (List.pairwise_singleton _ _)).symm⟩
  refine ⟨hnamed, hflag, ?_, ?_, hsame.1, hsame.2, fun tree => ⟨?_, ?_, ?_⟩⟩
  · have hplain : Command.parse ["check"] = .ok (.check {}) := by decide +kernel
    rw [(Command.run_of_files [] hplain hdefault (hfiles {} rfl rfl)).exitCode]
    decide +kernel
  · rw [(Command.run_of_files [] hparse hflag (hfiles _ rfl rfl)).exitCode]
    decide +kernel
  · exact hremoved {} ["function-naming"] tree
  · exact hset _ _ (by simp) tree
  · exact hunnamed {} ["FunctionNaming"] (by decide +kernel) tree

end Engine
end NamingLint
