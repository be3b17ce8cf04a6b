import NamingLint.Proofs.DisabledRules

/-!
The names that a rule answers to. They are its written form and, where that has no colon, the bare
name of the rule. A name is cut at its first colon, so the rules of a set that has a colon in it do
not answer to their written forms. Identifiers are any two texts here; nothing is said of which ones
are in use.
-/

namespace NamingLint

namespace RuleId

theorem splitAtColon_of_notMem {text : List Char} (h : ':' ∉ text) : splitAtColon text = none := by
  induction text with
  | nil => rfl
  | cons c rest ih =>
      obtain ⟨hc, hrest⟩ := not_or.mp (mt List.mem_cons.mpr h)
      rw [splitAtColon, ih hrest]
      · rfl
      · exact Ne.symm hc

theorem splitAtColon_append {before : List Char} (h : ':' ∉ before) (after : List Char) :
    splitAtColon (before ++ ':' :: after) = some (before, after) := by
  induction before with
  | nil => rfl
  | cons c rest ih =>
      obtain ⟨hc, hrest⟩ := not_or.mp (mt List.mem_cons.mpr h)
      rw [List.cons_append, splitAtColon, ih hrest]
      · rfl
      · exact Ne.symm hc

theorem toList_display (id : RuleId) :
    id.display.toList = id.set.toList ++ ':' :: id.rule.toList := by
  simp [display]

/-- The written form can be cut again where it was put together. -/
theorem splitAtColon_display {id : RuleId} (h : ':' ∉ id.set.toList) :
    splitAtColon id.display.toList = some (id.set.toList, id.rule.toList) := by
  rw [toList_display, splitAtColon_append h]

theorem isNamed_of_notMem {name : String} (h : ':' ∉ name.toList) (id : RuleId) :
    id.isNamed name = true ↔ name = id.rule := by
  simp [isNamed, splitAtColon_of_notMem h]

theorem isNamed_of_mem {name : String} (h : ':' ∈ name.toList) (id : RuleId) :
    id.isNamed name = true ↔ ':' ∉ id.set.toList ∧ name = id.display := by
  obtain ⟨before, after, hname, hbefore⟩ := List.eq_append_cons_of_mem h
  simp only [isNamed, hname, splitAtColon_append hbefore, Bool.and_eq_true, beq_iff_eq]
  constructor
  · intro h
    obtain ⟨hset, hrule⟩ := h
    refine ⟨hset ▸ hbefore, String.toList_inj.mp ?_⟩
    rw [hname, toList_display, hset, hrule]
  · intro h
    obtain ⟨hset, rfl⟩ := h
    have hcut := splitAtColon_append hbefore after
    rw [← hname, splitAtColon_display hset] at hcut
    obtain ⟨hfirst, hsecond⟩ := Prod.mk.inj (Option.some.inj hcut)
    exact ⟨hfirst.symm, hsecond.symm⟩

theorem mem_display (id : RuleId) : ':' ∈ id.display.toList := by
  rw [toList_display]
  exact List.mem_append_right _ List.mem_cons_self

/-- All the names of a rule. -/
theorem isNamed_iff (id : RuleId) (name : String) :
    id.isNamed name = true ↔
      (':' ∉ id.set.toList ∧ name = id.display) ∨ (name = id.rule ∧ ':' ∉ name.toList) := by
  by_cases h : ':' ∈ name.toList
  · simp [isNamed_of_mem h, h]
  · have hdisplay : name ≠ id.display := fun heq => h (heq ▸ id.mem_display)
    simp [isNamed_of_notMem h, h, hdisplay]

theorem eq_of_display_eq {a b : RuleId} (ha : ':' ∉ a.set.toList) (hb : ':' ∉ b.set.toList)
    (h : a.display = b.display) : a = b := by
  have hcut := splitAtColon_display ha
  rw [h, splitAtColon_display hb] at hcut
  obtain ⟨hset, hrule⟩ := Prod.mk.inj (Option.some.inj hcut)
  cases a
  cases b
  exact congr (congrArg RuleId.mk (String.toList_inj.mp hset.symm)) (String.toList_inj.mp hrule.symm)

end RuleId

theorem Config.enables_eq_false (config : Config) (id : RuleId) :
    config.enables id = false ↔ ∃ name ∈ config.disabledRules, id.isNamed name = true := by
  simp [← Bool.not_eq_true, Config.enables_iff]

/-- A rule of a set without a colon answers to its written form and to its bare name, as long as
that has no colon, and to nothing else. -/
theorem RuleId.names_exactly :
    (∀ id : RuleId, ':' ∉ id.set.toList →
      (∀ name, id.isNamed name = true ↔
        name = id.display ∨ (name = id.rule ∧ ':' ∉ name.toList)) ∧
      (∀ config : Config, config.enables id = false ↔
        id.display ∈ config.disabledRules ∨
          (id.rule ∈ config.disabledRules ∧ ':' ∉ id.rule.toList))) ∧
    (∀ id : RuleId, id.isNamed id.display = true ↔ ':' ∉ id.set.toList) ∧
    (∀ (name : String) (a b : RuleId), ':' ∈ name.toList → a.isNamed name = true →
      b.isNamed name = true → a.display = b.display) ∧
    (∀ a b : RuleId, ':' ∉ a.set.toList → ':' ∉ b.set.toList → a.display = b.display → a = b) := by
  have hnames (id : RuleId) (hset : ':' ∉ id.set.toList) (name : String) :
      id.isNamed name = true ↔ name = id.display ∨ (name = id.rule ∧ ':' ∉ name.toList) := by
    rw [isNamed_iff]
    simp only [hset, not_false_eq_true, true_and]
  refine ⟨fun id hset => ⟨hnames id hset, fun config => ?_⟩, fun id => ?_, ?_, ?_⟩
  · rw [Config.enables_eq_false]
    simp only [hnames id hset]
    constructor
    · rintro ⟨name, hname, rfl | ⟨rfl, hcolon⟩⟩
      · exact .inl hname
      · exact .inr ⟨hname, hcolon⟩
    · rintro (hname | ⟨hname, hcolon⟩)
      · exact ⟨_, hname, .inl rfl⟩
      · exact ⟨_, hname, .inr ⟨rfl, hcolon⟩⟩
  · rw [isNamed_of_mem id.mem_display]
    exact and_iff_left rfl
  · intro name a b hcolon ha hb
    obtain ⟨-, hname⟩ := (isNamed_of_mem hcolon a).mp ha
    obtain ⟨-, hname'⟩ := (isNamed_of_mem hcolon b).mp hb
    exact hname.symm.trans hname'
  · intro a b ha hb h
    exact eq_of_display_eq ha hb h

/-- Two rules are written alike here; the colon in its own name does no harm to the first of them,
which answers to its written form only, and the second, whose set has the colon, answers to none. -/
theorem RuleId.names_colonRule :
    ':' ∉ "standard".toList ∧
      (⟨"standard", "no:tabs"⟩ : RuleId).isNamed "standard:no:tabs" = true ∧
      (⟨"standard", "no:tabs"⟩ : RuleId).isNamed "no:tabs" = false ∧
      ({ disabledRules := ["no:tabs", "tabs"] } : Config).enables ⟨"standard", "no:tabs"⟩ = true ∧
      (⟨"standard:no", "tabs"⟩ : RuleId).display = "standard:no:tabs" ∧
      (⟨"standard:no", "tabs"⟩ : RuleId).isNamed "standard:no:tabs" = false := by
  obtain ⟨hnames, hdisplay, -, -⟩ := RuleId.names_exactly
  obtain ⟨hnamed, henables⟩ := hnames ⟨"standard", "no:tabs"⟩ (by decide)
  refine ⟨by decide, (hnamed _).mpr (.inl rfl), ?_, ?_, rfl, ?_⟩
  · rw [← Bool.not_eq_true, hnamed]
    decide
  · rw [← Bool.not_eq_false, henables]
    decide
  · rw [← Bool.not_eq_true]
    exact fun h => absurd ((hdisplay ⟨"standard:no", "tabs"⟩).mp h) (by decide)

end NamingLint
