import Mathlib.Data.List.Basic
import NamingLint.Proofs.CheckReport
import NamingLint.Proofs.PrintedLines
import NamingLint.Rule.Listing
import NamingLint.Text.Space

/-!
The listing of rules read back. The listing and the engine ask the configuration on their own which
rules are enabled; the words of the lines, read after the identifiers, give the rules of the engine.
When no white space stands in the identifiers, they can be read off the lines too, as the first of
two fields. Nothing is said of the descriptions that end the lines.
-/

namespace NamingLint

namespace Text

/-- The parts of a text between its white space. -/
def fields (text : List Char) : List (List Char) :=
  (text.splitOnP isSpace).filter fun field => !field.isEmpty

-- Closed texts are decided by way of `any`: a statement on all characters may be decided by
-- going through every character there is.
theorem forall_not_isSpace {text : List Char} (h : text.any isSpace = false) :
    ∀ c ∈ text, isSpace c = false := by
  simpa using h

theorem fields_space {c : Char} (hc : isSpace c = true) (rest : List Char) :
    fields (c :: rest) = fields rest := by
  have hsplit := List.splitOnP_append_cons [] rest hc
  simp only [List.nil_append, List.splitOnP_nil] at hsplit
  simp [fields, hsplit]

theorem fields_blanks (n : Nat) (rest : List Char) :
    fields (List.replicate n ' ' ++ rest) = fields rest := by
  induction n with
  | zero => rfl
  | succ n ih => rw [List.replicate_succ, List.cons_append, fields_space (by decide), ih]

theorem fields_word {word : List Char} (hne : word ≠ []) (hword : ∀ c ∈ word, isSpace c = false)
    (rest : List Char) : fields (word ++ ' ' :: rest) = word :: fields rest := by
  have hsplit := List.splitOnP_append_cons_of_forall_mem hword ' ' (by decide) rest
  simp [fields, hsplit, hne]

end Text

/-- The line begins with the identifier; then come blanks, at least one, and then the word. -/
def Tells (line : String) (id : RuleId) (word : String) : Prop :=
  ∃ n rest, line.toList =
    id.display.toList ++ (List.replicate (n + 1) ' ' ++ (word.toList ++ ' ' :: rest))

/-- The word that stands behind an identifier and blanks. -/
def wordAfter (id : RuleId) (line : String) : Option String :=
  (id.display.toList.isPrefixOf? line.toList).map fun rest =>
    String.ofList ((rest.dropWhile (· == ' ')).takeWhile (· != ' '))

/-- The first field of a line that has the word for enabled in its second one. -/
def enabledRow (line : String) : Option String :=
  match Text.fields line.toList with
  | id :: word :: _ => if word = "enabled".toList then some (String.ofList id) else none
  | _ => none

/-- The rules that a listing says are enabled, by their identifiers. -/
def readListing (lines : List String) : List String :=
  lines.filterMap enabledRow

namespace Tells

variable {line : String} {id : RuleId} {word : String}

theorem wordAfter_eq (h : Tells line id word) (hne : word.toList ≠ [])
    (hword : ' ' ∉ word.toList) : wordAfter id line = some word := by
  obtain ⟨n, rest, hline⟩ := h
  have hprefix := List.isPrefixOf?_eq_some_iff_append_eq.mpr hline.symm
  have hblanks : ∀ c ∈ List.replicate (n + 1) ' ', (c == ' ') = true := by simp
  have hletters : ∀ c ∈ word.toList, (c != ' ') = true := fun c hc => by
    have : c ≠ ' ' := fun heq => hword (heq ▸ hc)
    simpa using this
  have hdrop : (word.toList ++ ' ' :: rest).dropWhile (· == ' ') = word.toList ++ ' ' :: rest := by
    obtain ⟨c, letters, hchars⟩ := List.exists_cons_of_ne_nil hne
    have hc : c ≠ ' ' := fun heq => hword (by simp [hchars, heq])
    simp [hchars, hc]
  rw [wordAfter, hprefix, Option.map_some, List.dropWhile_append_of_pos hblanks, hdrop,
    List.takeWhile_append_of_pos hletters]
  simp

theorem fields_eq (h : Tells line id word) (hne : word.toList ≠ [])
    (hword : ∀ c ∈ word.toList, Text.isSpace c = false)
    (hid : ∀ c ∈ id.display.toList, Text.isSpace c = false) :
    ∃ rest, Text.fields line.toList = id.display.toList :: word.toList :: rest := by
  obtain ⟨n, rest, hline⟩ := h
  have hdisplay : id.display.toList ≠ [] := by simp [RuleId.display]
  refine ⟨Text.fields rest, ?_⟩
  rw [hline, List.replicate_succ, List.cons_append, Text.fields_word hdisplay hid,
    Text.fields_blanks, Text.fields_word hne hword]

end Tells

namespace Rule

variable (config : Config) (rule : Rule)

/-- How the listing names the state of a rule. -/
def stateWord : String :=
  if config.enables rule.id then "enabled" else "disabled"

theorem stateWord_cases : rule.stateWord config = "enabled" ∨ rule.stateWord config = "disabled" := by
  unfold stateWord
  split
  · exact .inl rfl
  · exact .inr rfl

theorem stateWord_eq_enabled : rule.stateWord config = "enabled" ↔ config.enables rule.id = true := by
  unfold stateWord
  split <;> simp_all

theorem stateWord_plain : (rule.stateWord config).toList ≠ [] ∧
    ∀ c ∈ (rule.stateWord config).toList, Text.isSpace c = false := by
  rcases rule.stateWord_cases config with h | h <;> rw [h]
  · exact ⟨by decide, Text.forall_not_isSpace (by decide +kernel)⟩
  · exact ⟨by decide, Text.forall_not_isSpace (by decide +kernel)⟩

/-- Padding puts blanks behind the identifier, and one comes behind it in any case. -/
theorem tells_listingLine : Tells (rule.listingLine config) rule.id (rule.stateWord config) := by
  refine ⟨32 - rule.id.display.length,
    List.replicate (8 - (rule.stateWord config).length) ' ' ++ ' ' :: rule.description.toList, ?_⟩
  have hline : rule.listingLine config =
      padRight 32 rule.id.display ++ " " ++ padRight 8 (rule.stateWord config) ++ "  " ++
        rule.description := rfl
  have hturn (n : Nat) (rest : List Char) :
      List.replicate n ' ' ++ ' ' :: rest = ' ' :: (List.replicate n ' ' ++ rest) := by
    rw [← List.cons_append, ← List.replicate_succ, List.replicate_succ', List.append_assoc]
    rfl
  simp [hline, padRight, hturn, List.replicate_succ]

theorem wordAfter_listingLine :
    wordAfter rule.id (rule.listingLine config) = some (rule.stateWord config) := by
  obtain ⟨hne, hplain⟩ := rule.stateWord_plain config
  refine (rule.tells_listingLine config).wordAfter_eq hne fun hmem => ?_
  cases (hplain ' ' hmem).symm.trans (by decide : Text.isSpace ' ' = true)

theorem fields_listingLine (hid : ∀ c ∈ rule.id.display.toList, Text.isSpace c = false) :
    ∃ rest, Text.fields (rule.listingLine config).toList =
      rule.id.display.toList :: (rule.stateWord config).toList :: rest := by
  obtain ⟨hne, hplain⟩ := rule.stateWord_plain config
  exact (rule.tells_listingLine config).fields_eq hne hplain hid

theorem enabledRow_listingLine (hid : ∀ c ∈ rule.id.display.toList, Text.isSpace c = false) :
    enabledRow (rule.listingLine config) =
      if config.enables rule.id then some rule.id.display else none := by
  obtain ⟨rest, hfields⟩ := rule.fields_listingLine config hid
  have hword : (rule.stateWord config).toList = "enabled".toList ↔
      config.enables rule.id = true := by
    rw [String.toList_inj, rule.stateWord_eq_enabled config]
  simp only [enabledRow, hfields, hword, String.ofList_toList]

end Rule

variable (sets : List RuleSet) (config : Config)

theorem ruleListing_eq :
    ruleListing sets config = (sets.flatMap RuleSet.rules).map fun rule => rule.listingLine config :=
  rfl

theorem ruleIds_ofSets :
    (Engine.ofSets sets config).ruleIds =
      ((sets.flatMap RuleSet.rules).filter fun rule => config.enables rule.id).map Rule.id :=
  rfl

/-- The lines that say enabled stand beside the rules of the engine. -/
theorem filter_zip_ruleListing :
    (((sets.flatMap RuleSet.rules).zip (ruleListing sets config)).filter fun p =>
        wordAfter p.1.id p.2 = some "enabled").map (fun p => p.1.id) =
      (Engine.ofSets sets config).ruleIds := by
  rw [ruleIds_ofSets, ruleListing_eq]
  induction sets.flatMap RuleSet.rules with
  | nil => rfl
  | cons rule rest ih =>
      have hword : wordAfter rule.id (rule.listingLine config) = some "enabled" ↔
          config.enables rule.id = true := by
        rw [rule.wordAfter_listingLine config, Option.some_inj, rule.stateWord_eq_enabled config]
      by_cases henabled : config.enables rule.id = true
      · simp [hword, henabled, ih]
      · simp [hword, henabled, ih]

theorem readListing_ruleListing
    (h : ∀ rule ∈ sets.flatMap RuleSet.rules, ∀ c ∈ rule.id.display.toList, Text.isSpace c = false) :
    readListing (ruleListing sets config) =
      (Engine.ofSets sets config).ruleIds.map RuleId.display := by
  rw [ruleIds_ofSets, ruleListing_eq, readListing]
  generalize sets.flatMap RuleSet.rules = rules at h ⊢
  induction rules with
  | nil => rfl
  | cons rule rest ih =>
      obtain ⟨hrule, hrest⟩ := List.forall_mem_cons.mp h
      have hrow := rule.enabledRow_listingLine config hrule
      cases henabled : config.enables rule.id with
      | true => simp [hrow, henabled, ih hrest]
      | false => simp [hrow, henabled, ih hrest]

namespace Command

theorem run_rules {fs : FileSystem} {arguments : List NativeText} {requested : Option Path}
    {config : Config} (environment : Environment)
    (h : parse arguments = .ok (.rules requested))
    (hconfig : loadConfig fs requested [] = .ok config) :
    (run fs environment arguments).output = lines (ruleListing RuleSet.shipped config) := by
  obtain ⟨log, filter, hrun⟩ := run_of_parse fs h environment
  rw [hrun, respond, rulesResponse, hconfig]
  rfl

theorem shipped_plain : ∀ rule ∈ RuleSet.shipped.flatMap RuleSet.rules,
    ∀ c ∈ rule.id.display.toList, Text.isSpace c = false := by
  intro rule hrule
  obtain rfl : rule = FunctionName.rule := List.mem_singleton.mp hrule
  exact Text.forall_not_isSpace (by decide +kernel)

theorem newline_notMem_shipped (config : Config) :
    ∀ line ∈ ruleListing RuleSet.shipped config, '\n' ∉ line.toList := by
  intro line hline
  obtain rfl : line = FunctionName.rule.listingLine config := List.mem_singleton.mp hline
  unfold Rule.listingLine
  cases config.enables FunctionName.rule.id <;> decide +kernel

end Command

/-- Every rule has its line, in the order of the sets. The line begins with the whole identifier, and
the word after it says whether the engine has the rule; where no white space is in the identifiers,
the lines give the rules of the engine back, and so does what the listing command prints. -/
theorem ruleListing_agrees :
    (∀ (sets : List RuleSet) (config : Config),
      (ruleListing sets config).length = (sets.flatMap RuleSet.rules).length ∧
      (∀ (k : Nat) (rule : Rule), (sets.flatMap RuleSet.rules)[k]? = some rule →
        ∃ line word, (ruleListing sets config)[k]? = some line ∧
          (word = "enabled" ∨ word = "disabled") ∧ Tells line rule.id word ∧
          wordAfter rule.id line = some word ∧
          ((∀ c ∈ rule.id.display.toList, Text.isSpace c = false) →
            ∃ rest, Text.fields line.toList = rule.id.display.toList :: word.toList :: rest)) ∧
      (((sets.flatMap RuleSet.rules).zip (ruleListing sets config)).filter fun p =>
          wordAfter p.1.id p.2 = some "enabled").map (fun p => p.1.id) =
        (Engine.ofSets sets config).ruleIds ∧
      ((∀ rule ∈ sets.flatMap RuleSet.rules,
          ∀ c ∈ rule.id.display.toList, Text.isSpace c = false) →
        readListing (ruleListing sets config) =
          (Engine.ofSets sets config).ruleIds.map RuleId.display)) ∧
    (∀ fs environment arguments requested config,
      Command.parse arguments = .ok (.rules requested) →
      Command.loadConfig fs requested [] = .ok config →
      readListing ((Text.printedLines
          (Command.run fs environment arguments).output.toList).map String.ofList) =
        (Engine.ofSets RuleSet.shipped config).ruleIds.map RuleId.display) := by
  refine ⟨fun sets config => ⟨List.length_map .., fun k rule hrule => ?_,
    filter_zip_ruleListing sets config, readListing_ruleListing sets config⟩, ?_⟩
  · refine ⟨rule.listingLine config, rule.stateWord config, ?_, rule.stateWord_cases config,
      rule.tells_listingLine config, rule.wordAfter_listingLine config,
      rule.fields_listingLine config⟩
    rw [ruleListing_eq, List.getElem?_map, hrule, Option.map_some]
  · intro fs environment arguments requested config h hconfig
    have hlines := Text.printedLines_lines (Command.newline_notMem_shipped config)
    rw [Command.run_rules environment h hconfig, hlines, List.map_map]
    have hsame : String.ofList ∘ String.toList = id := funext fun s => String.ofList_toList
    rw [hsame, List.map_id]
    exact readListing_ruleListing RuleSet.shipped config Command.shipped_plain

end NamingLint
