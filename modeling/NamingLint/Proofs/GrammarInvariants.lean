import NamingLint.Kotlin.Source
import NamingLint.Proofs.ParserInvariants

/-!
What the productions of the grammar keep. Each production is put together from parsers that keep the
place in the source, and none makes an import, so each keeps it, provided that the parts of the
grammar that it calls in a circle do. The circle is closed by induction on the depth of the calls.
-/

namespace NamingLint.Kotlin.Grammar

open Kotlin.Parser

variable {source : List Char} {P : Concrete → Prop} {self : Productions}

theorem keeps_modifierWord (kind : String) (words : List String)
    (hk : isImportKind kind = false := by decide) :
    Keeps (Placed source P) (modifierWord kind words) :=
  .guarded fun w => .seq (.node (.token_anonymous w _) hk) .check

instance keeps_atSign : Keeps (Placed source P) atSign :=
  .guarded fun _ => .leaf_anonymous "@" 1

instance keeps_suspendModifier : Keeps (Placed source P) suspendModifier :=
  .seq (.keyword "suspend") .check

instance keeps_nullMarks : Keeps (Placed source P) nullMarks :=
  .seq (.signUnless "?" _) (.many (.signUnless "?" _))

instance keeps_numberLiteral : Keeps (Placed source P) numberLiteral := by
  refine .bind (.look _) fun form => ?_
  split
  · exact .token_named .plain _
  · exact .token_named .plain _
  · exact .mismatch

instance keeps_escapeSequence : Keeps (Placed source P) escapeSequence :=
  .guarded fun n => .leaf_named .plain n

instance keeps_delimiter (text : String) : Keeps (Placed source P) (delimiter text) :=
  .guarded fun _ => .leaf_anonymous text _

instance keeps_characterLiteral : Keeps (Placed source P) characterLiteral :=
  .node <| .seq (keeps_delimiter _) <|
    .seq (.or keeps_escapeSequence (.or (.guarded fun _ => .skip 1) .none)) <|
    .seq (keeps_delimiter _) .trivia

instance keeps_embeddedName : Keeps (Placed source P) embeddedName :=
  .node <| .seq (keeps_delimiter _) (.guarded fun n => .leaf_named .plain n)

instance keeps_content (length : Nat) : Keeps (Placed source P) (content length) :=
  .seq (.guard _) (.leaf_named .plain length)

instance keeps_nameExpression : Keeps (Placed source P) nameExpression :=
  .unlessWord (.identifier .plain)

theorem keeps_attachedName (kind : String) (hk : isImportKind kind = false := by decide) :
    Keeps (Placed source P) (attachedName kind) :=
  .optional <| .guarded fun n => .seq (.leaf_anonymous "@" 1) (.leaf_named .plain n hk)

instance keeps_thisExpression : Keeps (Placed source P) thisExpression :=
  .node <| .guarded fun _ => .seq (.leaf_anonymous "this" 4) <|
    .seq (keeps_attachedName "identifier") .trivia

instance keeps_freeReference : Keeps (Placed source P) freeReference :=
  .node <| .seq (.sign "::") (.or (.keyword "class") (.or (.identifier .plain) .none))

instance keeps_label : Keeps (Placed source P) label :=
  .unlessWord <| .guarded fun n => .guarded fun _ => .token_named .plain (n + 1)

instance keeps_negatable (word : String) :
    Keeps (Placed source P) (choice [keyword word, do sign "!"; keyword word]) :=
  .or (.keyword word) (.or (.seq (.sign "!") (.keyword word)) .none)

instance keeps_prefixSign : Keeps (Placed source P) prefixSign :=
  .choice <| by simp [Keeps.sign]

instance keeps_assignmentSign : Keeps (Placed source P) assignmentSign :=
  .choice <| by simp [Keeps.sign, Keeps.signUnless]

/-- The parts of a dotted name are parts of the expression that it is read from. -/
theorem importsAre_dottedName {c : Concrete} {names : List Concrete}
    (h : dottedName? c = some names) (hc : c.ImportsAre P) : ∀ n ∈ names, n.ImportsAre P := by
  induction hc generalizing names with
  | @node head children here below ih =>
      unfold dottedName? at h
      split at h
      · obtain rfl := Option.some.inj h
        exact List.forall_mem_singleton.mpr (.node here below)
      · split at h
        · split at h
          · next left dot last =>
              obtain ⟨-, h⟩ := Option.ite_none_right_eq_some.mp h
              obtain ⟨read, hread, rfl⟩ := Option.map_eq_some_iff.mp h
              obtain ⟨-, hlast⟩ := List.forall_mem_cons.mp below
              intro n hn
              rcases List.mem_append.mp hn with hn | hn
              · exact ih left List.mem_cons_self hread n hn
              · exact hlast n hn
          · cases h
        · cases h

instance keeps_readAsType : Keeps (Placed source P) readAsType := by
  refine ⟨fun s h => ?_⟩
  unfold readAsType
  split
  · next left hnodes =>
      split
      · next names hnames =>
          have hleft : left.ImportsAre P := h.imports left (by simp [hnodes])
          have hkind : isImportKind "user_type" = false := by decide
          refine ⟨h.aligned, List.forall_mem_singleton.mpr ?_⟩
          exact .other (fun _ => hkind) (importsAre_dottedName hnames hleft)
      · exact h
  · exact h

instance keeps_referenceTail : Keeps (Placed source P) referenceTail :=
  .guarded fun _ => .bind keeps_readAsType fun isType => .seq (.sign "::") <|
    .seq (.or (.keyword "class") (.or (.identifier .plain) .none))
      (.reduce (by cases isType <;> decide))

theorem keeps_operators : ∀ op ∈ operators,
    Keeps (Placed source P) op.read ∧ isImportKind op.kind = false := by
  simp only [operators, List.forall_mem_cons]
  refine ⟨⟨.sign _, by decide⟩, ⟨.sign _, by decide⟩, ⟨?_, by decide⟩, ⟨?_, by decide⟩,
    ⟨keeps_negatable "in", by decide⟩, ⟨.sign _, by decide⟩, ⟨?_, by decide⟩, ⟨?_, by decide⟩,
    ⟨?_, by decide⟩, nofun⟩
  all_goals exact .choice <| by simp [Keeps.sign, Keeps.signUnless]

instance keeps_variableWord :
    Keeps (Placed source P) (choice [keyword "val", keyword "var"]) :=
  .or (.keyword "val") (.or (.keyword "var") .none)

theorem keeps_memberBody {members : Parser Unit} (h : Keeps (Placed source P) members) :
    Keeps (Placed source P) (memberBody members) :=
  .frame <| .bind
    (.within true true <| .seq (.sign _) <| .seq h <| .bind (.look _) fun _ =>
      .seq (.closing _) (.pure _))
    fun _ => .seq .reduce (.pure _)

section

variable [hself : ∀ nonterminal, Keeps (Placed source P) (self nonterminal)]

instance keeps_typeProjection : Keeps (Placed source P) (typeProjection self) :=
  .node <| .seq (.optional (.node (keeps_modifierWord "variance_modifier" _)))
    (.or (.sign "*") (.or (hself .type) .none))

instance keeps_typeArguments : Keeps (Placed source P) (typeArguments self) :=
  .node <| .seq (.sign "<") <| .seq (.commaList1 keeps_typeProjection) <|
    .seq (.optional (.sign ",")) (.sign ">")

instance keeps_typeSegment : Keeps (Placed source P) (typeSegment self) :=
  .seq (.identifier .plain) (.optional keeps_typeArguments)

instance keeps_userTypeParts : Keeps (Placed source P) (userTypeParts self) :=
  .seq keeps_typeSegment
    (.many (.seq (.signUnless "." _) keeps_typeSegment))

instance keeps_userType : Keeps (Placed source P) (userType self) :=
  .node keeps_userTypeParts

instance keeps_annotationBody : Keeps (Placed source P) (annotationBody self) :=
  .frame <| .seq keeps_userType <|
    .test (.look _) (.seq (hself .arguments) .reduce) (.pure ())

instance keeps_annotationBodies : Keeps (Placed source P) (annotationBodies self) :=
  .or (.seq (.sign "[") <| .seq keeps_annotationBody <|
      .seq (.many keeps_annotationBody) (.closing "]")) <|
    .or keeps_annotationBody .none

instance keeps_annotationEntry : Keeps (Placed source P) (annotationEntry self) :=
  .node <| .seq keeps_atSign <|
    .seq (.optional <| .node <| .guarded fun w =>
      .seq (.token_anonymous w _) (.signUnless ":" _)) <|
    keeps_annotationBodies

instance keeps_typeModifiers : Keeps (Placed source P) (typeModifiers self) :=
  have hone := .or (hself .annotationEntry) (.or keeps_suspendModifier .none)
  .node <| .seq hone (.many hone)

instance keeps_functionTypeParameter : Keeps (Placed source P) (functionTypeParameter self) :=
  .or (.node <| .seq (.identifier .plain) <| .seq (.signUnless ":" _) (hself .type)) <|
    .or (hself .type) .none

instance keeps_typesInParentheses : Keeps (Placed source P) (typesInParentheses self) :=
  .frame <| .seq (.parenthesized (.commaList keeps_functionTypeParameter)) <|
    .test (.look _) .reduce .reduce

instance keeps_functionTypeResult : Keeps (Placed source P) (functionTypeResult self) :=
  .seq (.sign "->") <| .seq (hself .type) .reduce

instance keeps_plainType : Keeps (Placed source P) (plainType self) :=
  .test (.look _)
    (.seq keeps_typesInParentheses (.attempt keeps_functionTypeResult))
    (.seq keeps_userTypeParts <| .seq .reduce (.pure false))

instance keeps_typeExpression : Keeps (Placed source P) (typeExpression self) :=
  .frame <| .seq (.optional keeps_typeModifiers) <|
    .test (.attempt (.keyword "dynamic")) (.pure ()) <|
    .test keeps_plainType (.pure ()) <|
    .when (.attempt keeps_nullMarks) .reduce <|
    .or (.seq (.sign ".") <| .seq keeps_typesInParentheses
      keeps_functionTypeResult) <|
    .or (.seq (.signUnless "&" _) <| .seq (hself .type) .reduce) <|
    .or (.pure ()) .none

instance keeps_receiver : Keeps (Placed source P) (receiver self) := by
  have hmarked : Keeps (Placed source P) (do
      if ← attempt (do sign "?"; many (sign "?")) then reduce "nullable_type" else pure ()) :=
    .test (.attempt (.seq (.sign "?") (.many (.sign "?")))) .reduce (.pure ())
  refine .seq (.frame <| .seq (.optional keeps_typeModifiers) ?_) (.sign ".")
  refine .test (.look _) (.seq keeps_typesInParentheses hmarked) ?_
  refine .seq keeps_typeSegment <| .seq .check <| .seq ?_ (.seq .reduce hmarked)
  exact .many <| .seq (.sign ".") <| .seq keeps_typeSegment .check

instance keeps_typeParameter : Keeps (Placed source P) (typeParameter self) :=
  have hone := .or (hself .annotationEntry) <|
    .or (keeps_modifierWord "reification_modifier" _) <|
    .or (keeps_modifierWord "variance_modifier" _) .none
  .node <| .seq (.optional (.node (.seq hone (.many hone)))) <|
    .seq (.identifier .plain) (.optional (.seq (.sign ":") (hself .type)))

instance keeps_typeParameters : Keeps (Placed source P) (typeParameters self) :=
  .node <| .seq (.sign "<") <| .seq (.commaList1 keeps_typeParameter) <|
    .seq (.optional (.sign ",")) (.sign ">")

instance keeps_typeConstraint : Keeps (Placed source P) (typeConstraint self) :=
  .node <| .seq (.many (hself .annotationEntry)) <| .seq (.identifier .plain) <|
    .seq (.sign ":") (hself .type)

instance keeps_typeConstraints : Keeps (Placed source P) (typeConstraints self) :=
  .node <| .guarded fun _ => .seq (.keyword "where") (.commaList1 keeps_typeConstraint)

instance keeps_embeddedExpression : Keeps (Placed source P) (embeddedExpression self) :=
  .node <| .guarded fun _ => .seq (.token_anonymous _ 2) <|
    .seq (.within false true (hself (.expression 1))) (.unlessEmpty (keeps_delimiter _))

instance keeps_lineText : Keeps (Placed source P) (lineText self) :=
  .node <| .seq (keeps_delimiter _) <|
    .seq (.many <| .or keeps_escapeSequence <| .or keeps_embeddedExpression <|
      .or (.guarded fun _ => keeps_content 1) <|
      .or (.bind (.look _) fun n => keeps_content n) .none) <|
    .seq (keeps_delimiter _) .trivia

instance keeps_blockText : Keeps (Placed source P) (blockText self) :=
  .node <| .seq (keeps_delimiter _) <|
    .seq (.many <| .or keeps_embeddedExpression <| .or keeps_embeddedName <|
      .or (.bind (.look _) fun n => keeps_content n) .none) <|
    .seq (keeps_delimiter _) .trivia

instance keeps_textLiteral : Keeps (Placed source P) (textLiteral self) :=
  .test (.look _) keeps_blockText keeps_lineText

instance keeps_assignedValue : Keeps (Placed source P) (assignedValue self) :=
  .seq (.signUnless "=" _) (hself (.expression 1))

instance keeps_typeClause : Keeps (Placed source P) (typeClause self) :=
  .seq (.signUnless ":" _) (hself .type)

instance keeps_parameterModifiers : Keeps (Placed source P) (parameterModifiers self) :=
  have hone := .or (hself .annotationEntry) <|
    .or (keeps_modifierWord "parameter_modifier" _) .none
  .node <| .seq hone (.many hone)

instance keeps_parameter : Keeps (Placed source P) (parameter self) :=
  .seq (.optional keeps_parameterModifiers) <|
    .seq (.node (.seq (.identifier .plain) keeps_typeClause))
      (.optional keeps_assignedValue)

instance keeps_valueParameters : Keeps (Placed source P) (valueParameters self) :=
  .node (.parenthesized (.commaList keeps_parameter))

instance keeps_setterParameter : Keeps (Placed source P) (setterParameter self) :=
  .seq (.optional keeps_parameterModifiers) <| .seq (.identifier .plain) <|
    .seq (.optional keeps_typeClause) (.optional keeps_assignedValue)

instance keeps_functionBody : Keeps (Placed source P) (functionBody self) :=
  .node (.test (.look _) (hself .block) keeps_assignedValue)

instance keeps_optionalBody : Keeps (Placed source P) (optionalBody self) :=
  .test (.test (.look _) (.pure true) (.applies _)) keeps_functionBody (.pure ())

instance keeps_functionRest : Keeps (Placed source P) (functionRest self) :=
  .seq keeps_valueParameters <| .when (.applies _) keeps_typeClause <|
    .seq (.optional keeps_typeConstraints) keeps_optionalBody

instance keeps_variableDeclaration : Keeps (Placed source P) (variableDeclaration self) :=
  .node <| .seq (.many (hself .annotationEntry)) <| .seq (.identifier .plain) <|
    .optional keeps_typeClause

instance keeps_multiVariableDeclaration :
    Keeps (Placed source P) (multiVariableDeclaration self) :=
  .node (.parenthesized (.commaList keeps_variableDeclaration))

instance keeps_boundVariables : Keeps (Placed source P) (boundVariables self) :=
  .test (.look _) keeps_multiVariableDeclaration keeps_variableDeclaration

instance keeps_controlBody : Keeps (Placed source P) (controlBody self) :=
  .test (.look _) (hself .block) (hself .statement)

instance keeps_condition : Keeps (Placed source P) (condition self) :=
  .parenthesized (hself (.expression 1))

instance keeps_block : Keeps (Placed source P) (block self) :=
  .node (.braced (.itemsOf (hself .statement)))

instance keeps_lambdaParameters : Keeps (Placed source P) (lambdaParameters self) :=
  .node <| .seq (.commaList1 keeps_boundVariables) (.optional (.sign ","))

instance keeps_lambda : Keeps (Placed source P) (lambda self) :=
  .node <| .braced <|
    .seq (.optional (.seq (.optional keeps_lambdaParameters) (.sign "->")))
      (.itemsOf (hself .statement))

instance keeps_superExpression : Keeps (Placed source P) (superExpression self) :=
  .node <| .guarded fun _ => .seq (.leaf_anonymous "super" 5) <|
    .seq (.optional (.seq (.sign "<") (.seq (hself .type) (.sign ">")))) <|
    .seq (keeps_attachedName "identifier") .trivia

instance keeps_returnExpression : Keeps (Placed source P) (returnExpression self) :=
  .node <| .guarded fun _ => .seq (.leaf_anonymous "return" 6) <|
    .seq (keeps_attachedName "label") <| .seq .trivia <|
    .optional (.guarded fun _ => hself (.expression 1))

instance keeps_throwExpression : Keeps (Placed source P) (throwExpression self) :=
  .node <| .seq (.keyword "throw") (hself (.expression 1))

instance keeps_ifExpression : Keeps (Placed source P) (ifExpression self) := by
  refine .node <| .seq (.keyword "if") <| .seq keeps_condition ?_
  refine .branch (.look _) (.pure true) (.wordIn _) fun bare => ?_
  have helse : Keeps (Placed source P) (choice [controlBody self, sign ";"]) :=
    .or keeps_controlBody (.or (.sign ";") .none)
  have hrest := Keeps.optional (.seq (.optional (.sign ";")) (.seq (.keyword "else") helse))
  exact .ite hrest (.seq keeps_controlBody hrest)

instance keeps_whenCondition : Keeps (Placed source P) (whenCondition self) :=
  .or (.node (.seq (keeps_negatable "in") (hself (.expression 1)))) <|
    .or (.node (.seq (keeps_negatable "is") (hself .type))) <|
    .or (hself (.expression 1)) .none

instance keeps_whenEntry : Keeps (Placed source P) (whenEntry self) :=
  .node <| .seq
    (.or (.keyword "else") <|
      .or (.seq (.commaList1 keeps_whenCondition) (.optional (.sign ","))) .none) <|
    .seq (.sign "->") <| .seq keeps_controlBody (.many (.sign ";"))

instance keeps_whenSubject : Keeps (Placed source P) (whenSubject self) :=
  .node <| .parenthesized <| .seq
    (.optional <| .seq (.many (hself .annotationEntry)) <| .seq (.keyword "val") <|
      .seq keeps_variableDeclaration (.signUnless "=" _))
    (hself (.expression 1))

instance keeps_whenExpression : Keeps (Placed source P) (whenExpression self) :=
  .node <| .seq (.keyword "when") <| .seq (.optional keeps_whenSubject)
    (.braced (.itemsOf keeps_whenEntry))

instance keeps_catchBlock : Keeps (Placed source P) (catchBlock self) :=
  .node <| .seq (.keyword "catch") <| .seq
    (.parenthesized <| .seq (.many (hself .annotationEntry)) <| .seq (.identifier .plain)
      keeps_typeClause)
    (hself .block)

instance keeps_finallyBlock : Keeps (Placed source P) (finallyBlock self) :=
  .node <| .seq (.keyword "finally") (hself .block)

instance keeps_tryExpression : Keeps (Placed source P) (tryExpression self) :=
  .node <| .seq (.keyword "try") <| .seq (hself .block) <|
    .seq (.many keeps_catchBlock) (.optional keeps_finallyBlock)

instance keeps_callArguments : Keeps (Placed source P) (callArguments self) :=
  .node <| .parenthesized <| .commaList <| .node <| .seq (.many (hself .annotationEntry)) <|
    .seq (.optional (.seq (.identifier .plain) (.signUnless "=" _))) <|
    .test (.look _) (.node (.seq (.sign "*") (hself (.expression 1)))) (hself (.expression 1))

instance keeps_constructorInvocation : Keeps (Placed source P) (constructorInvocation self) :=
  .node <| .seq keeps_userType (hself .arguments)

instance keeps_explicitDelegation : Keeps (Placed source P) (explicitDelegation self) :=
  .node <| .seq (hself .type) <| .seq (.keyword "by")
    ⟨fun s => (Keeps.within s.breaks false (hself (.expression 1))).ends s⟩

instance keeps_delegationSpecifier : Keeps (Placed source P) (delegationSpecifier self) :=
  .node <| .seq (.many (hself .annotationEntry)) <| .or keeps_explicitDelegation <|
    .or keeps_constructorInvocation <| .or (hself .type) .none

instance keeps_delegationSpecifiers : Keeps (Placed source P) (delegationSpecifiers self) :=
  .seq (.sign ":") (.node (.commaList1 keeps_delegationSpecifier))

instance keeps_objectLiteral : Keeps (Placed source P) (objectLiteral self) :=
  .node <| .seq (.keyword "object") <| .seq (.optional keeps_delegationSpecifiers)
    (hself .classBody)

instance keeps_anonymousFunction : Keeps (Placed source P) (anonymousFunction self) :=
  .node <| .seq (.keyword "fun") <| .seq (.optional keeps_receiver) <|
    .seq (.optional (.frame (.seq (.identifier .plain) (.reduceAs .plain true))))
      keeps_functionRest

instance keeps_parenthesizedExpression :
    Keeps (Placed source P) (parenthesizedExpression self) :=
  .node (.parenthesized (hself (.expression 1)))

instance keeps_collectionLiteral : Keeps (Placed source P) (collectionLiteral self) :=
  .node <| .within false true <| .seq (.sign "[") <|
    .seq (.commaList (hself (.expression 1))) (.closing "]")

instance keeps_wordExpression : Keeps (Placed source P) (wordExpression self) :=
  .or keeps_thisExpression <| .or keeps_superExpression <|
    .or keeps_returnExpression <| .or keeps_throwExpression <|
    .or keeps_ifExpression <| .or keeps_whenExpression <|
    .or keeps_tryExpression <| .or keeps_objectLiteral <|
    .or keeps_anonymousFunction <| .or keeps_nameExpression .none

instance keeps_primary : Keeps (Placed source P) (primary self) := by
  refine .bind (.look _) fun next => ?_
  split
  · exact keeps_parenthesizedExpression
  · exact hself .lambda
  · exact keeps_collectionLiteral
  · exact keeps_textLiteral
  · exact keeps_characterLiteral
  · exact keeps_freeReference
  · exact .identifier .plain
  · exact .ite keeps_wordExpression keeps_numberLiteral
  · exact .mismatch

instance keeps_annotatedLambda : Keeps (Placed source P) (annotatedLambda self) :=
  .guarded fun _ => .node <| .seq (.many (hself .annotationEntry)) <|
    .seq (.optional keeps_label) (.guarded fun _ => hself .lambda)

instance keeps_postfixTail : Keeps (Placed source P) (postfixTail self) := by
  have harguments := hself .arguments
  have hlambda : Keeps (Placed source P) (annotatedLambda self) := keeps_annotatedLambda
  refine .guarded fun _ => .or (.seq (.choice ?_) .reduce) <|
    .or (.seq (.choice ?_) (.seq (.identifier .plain) .reduce)) <|
    .or keeps_referenceTail <| .or (.seq harguments .reduce) <| .or (.seq hlambda .reduce) <|
    .or (.seq keeps_typeArguments <|
      .seq (.or harguments (.or hlambda .none)) .reduce) <|
    .or (.seq (.within false true ?_) .reduce) .none
  · simp [Keeps.sign, Keeps.signUnless]
  · simp [Keeps.sign, Keeps.signUnless]
  · exact .seq (.sign "[") <| .seq (.commaList1 (hself (.expression 1))) <|
      .seq (.optional (.sign ",")) (.closing "]")

instance keeps_postfixExpression : Keeps (Placed source P) (postfixExpression self) :=
  .frame <| .seq keeps_primary (.many keeps_postfixTail)

instance keeps_operand : Keeps (Placed source P) (operand self) :=
  .or (.node (.seq (hself .annotationEntry) (hself (.expression 1)))) <|
    .or (.node (.seq keeps_label (hself (.expression 1)))) <|
    .or (.node (.seq keeps_prefixSign (hself (.expression prefixLevel)))) <|
    .or keeps_postfixExpression .none

theorem keeps_operatorTail (level : Nat) {op : Operator} (h : op ∈ operators) :
    Keeps (Placed source P) (operatorTail self level op) :=
  have ⟨hread, hkind⟩ := keeps_operators op h
  .seq (.guard _) <| .seq hread <| .seq (hself (.expression (op.level + 1))) (.reduce hkind)

instance keeps_infixTail (level : Nat) : Keeps (Placed source P) (infixTail self level) :=
  .seq (.guard _) <| .unlessWord <| .seq (.identifier .plain) <|
    .seq (hself (.expression (infixLevel + 1))) .reduce

instance keeps_typeTestTail (level : Nat) : Keeps (Placed source P) (typeTestTail self level) :=
  .seq (.guard _) <| .seq (keeps_negatable "is") <| .seq (hself .type) .reduce

instance keeps_castTail (level : Nat) : Keeps (Placed source P) (castTail self level) :=
  .seq (.guard _) <| .seq (.keyword "as") <| .seq (.optional (.signUnless "?" _)) <|
    .seq (hself .type) .reduce

instance keeps_binaryTail (level : Nat) : Keeps (Placed source P) (binaryTail self level) := by
  refine .guarded fun _ => .choice <| List.forall_mem_append.mpr ⟨?_, ?_⟩
  · exact List.forall_mem_map.mpr fun op hop => keeps_operatorTail level hop
  · simp only [List.forall_mem_cons]
    exact ⟨keeps_typeTestTail level, keeps_castTail level,
      keeps_infixTail level, nofun⟩

instance keeps_expressionOf (level : Nat) : Keeps (Placed source P) (expressionOf self level) :=
  .frame <| .seq keeps_operand (.many (keeps_binaryTail level))

instance keeps_modifier : Keeps (Placed source P) (modifier self) := by
  have hwords : ∀ entry ∈ modifierClasses,
      Keeps (Placed source P) (modifierWord entry.1 entry.2) := by
    have hkinds : ∀ entry ∈ modifierClasses, isImportKind entry.1 = false := by decide
    exact fun entry hentry => keeps_modifierWord entry.1 entry.2 (hkinds entry hentry)
  exact .or (hself .annotationEntry) (.choice (List.forall_mem_map.mpr hwords))

instance keeps_modifiers : Keeps (Placed source P) (modifiers self) :=
  .node <| .seq keeps_modifier (.many keeps_modifier)

instance keeps_functionDeclaration : Keeps (Placed source P) (functionDeclaration self) :=
  .seq (.keyword "fun") <| .seq (.optional keeps_typeParameters) <|
    .seq (.optional keeps_receiver) <| .seq (.identifier .name) <|
    .seq keeps_functionRest .reduce

instance keeps_getter : Keeps (Placed source P) (getter self) :=
  .node <| .seq (.optional keeps_modifiers) <| .seq (.keyword "get") <|
    .optional <| .seq (.sign "(") <| .seq (.closing ")") <|
    .seq (.optional keeps_typeClause) keeps_functionBody

instance keeps_setter : Keeps (Placed source P) (setter self) :=
  .node <| .seq (.optional keeps_modifiers) <| .seq (.keyword "set") <|
    .optional <| .seq
      (.parenthesized (.seq keeps_setterParameter (.optional (.sign ",")))) <|
    .seq (.optional keeps_typeClause) keeps_functionBody

instance keeps_accessor : Keeps (Placed source P) (accessor self) :=
  .seq (.many (.sign ";")) <|
    .seq (.or keeps_getter (.or keeps_setter .none)) <|
    .bind (.look _) fun _ => .check

instance keeps_propertyDelegate : Keeps (Placed source P) (propertyDelegate self) :=
  .node <| .seq (.keyword "by") (hself (.expression 1))

instance keeps_propertyDeclaration : Keeps (Placed source P) (propertyDeclaration self) :=
  .seq (keeps_variableWord) <| .seq (.optional keeps_typeParameters) <|
    .seq (.optional keeps_receiver) <| .seq keeps_boundVariables <|
    .seq (.optional keeps_typeConstraints) <|
    .seq (.or keeps_assignedValue <| .or keeps_propertyDelegate <|
      .or (.pure ()) .none) <|
    .seq (.many keeps_accessor) .reduce

instance keeps_classParameter : Keeps (Placed source P) (classParameter self) :=
  .node <| .seq (.optional keeps_modifiers) <| .seq (.optional (keeps_variableWord)) <|
    .seq (.identifier .plain) <| .seq keeps_typeClause <|
    .optional keeps_assignedValue

instance keeps_classParameters : Keeps (Placed source P) (classParameters self) :=
  .node (.parenthesized (.commaList keeps_classParameter))

instance keeps_primaryConstructor : Keeps (Placed source P) (primaryConstructor self) :=
  .node <| .seq
    (.optional (.seq (.optional keeps_modifiers) (.keyword "constructor")))
    keeps_classParameters

instance keeps_delegationCall : Keeps (Placed source P) (delegationCall self) :=
  .node <| .seq (.or (.keyword "this") (.or (.keyword "super") .none)) (hself .arguments)

instance keeps_secondaryConstructor : Keeps (Placed source P) (secondaryConstructor self) :=
  .seq (.keyword "constructor") <| .seq keeps_valueParameters <|
    .seq (.optional (.seq (.sign ":") keeps_delegationCall)) <|
    .when (.look _) (hself .block) .reduce

instance keeps_initializer : Keeps (Placed source P) (initializer self) :=
  .seq (.keyword "init") <| .seq (hself .block) .reduce

instance keeps_optionalClassBody : Keeps (Placed source P) (optionalClassBody self) :=
  .test (.look _) (hself .classBody) (.pure ())

instance keeps_companionObject : Keeps (Placed source P) (companionObject self) :=
  .seq (.keyword "companion") <| .seq (.keyword "object") <|
    .seq (.optional (.identifier .plain)) <| .seq (.optional keeps_delegationSpecifiers) <|
    .when (.look _) (hself .companionBody) .reduce

instance keeps_objectDeclaration : Keeps (Placed source P) (objectDeclaration self) :=
  .seq (.keyword "object") <| .seq (.identifier .name) <|
    .seq (.optional keeps_delegationSpecifiers) <|
    .seq keeps_optionalClassBody .reduce

instance keeps_typeAlias : Keeps (Placed source P) (typeAlias self) :=
  .seq (.keyword "typealias") <| .seq (.identifier .name) <|
    .seq (.optional keeps_typeParameters) <| .seq (.signUnless "=" _) <|
    .seq (hself .type) .reduce

instance keeps_classHead : Keeps (Placed source P) (classHead self) :=
  .seq (.or (.keyword "class") <|
      .or (.seq (.optional (.keyword "fun")) (.keyword "interface")) .none) <|
    .seq (.identifier .name) <| .seq (.optional keeps_typeParameters) <|
    .seq (.optional keeps_primaryConstructor) <|
    .seq (.optional keeps_delegationSpecifiers) <|
    .optional keeps_typeConstraints

instance keeps_classDeclaration : Keeps (Placed source P) (classDeclaration self) :=
  .bind (.look _) fun _ => .seq keeps_classHead <| .when (.look _) (hself _) .reduce

instance keeps_plainDeclaration : Keeps (Placed source P) (plainDeclaration self) :=
  .or keeps_classDeclaration <| .or keeps_functionDeclaration <|
    .or keeps_propertyDeclaration <| .or keeps_objectDeclaration <|
    .or keeps_typeAlias .none

instance keeps_declaration : Keeps (Placed source P) (declaration self) :=
  .frame <| .seq (.optional keeps_modifiers) keeps_plainDeclaration

instance keeps_member : Keeps (Placed source P) (member self) :=
  .frame <| .seq (.optional keeps_modifiers) <|
    .or keeps_companionObject <| .or keeps_secondaryConstructor <|
    .or keeps_initializer <| .or keeps_plainDeclaration .none

instance keeps_members : Keeps (Placed source P) (members self) :=
  .itemsOf keeps_member

instance keeps_classBody : Keeps (Placed source P) (classBody self) :=
  .bind (keeps_memberBody keeps_members) fun _ => .pure ()

instance keeps_companionBody : Keeps (Placed source P) (companionBody self) := by
  refine .frame <| .bind (keeps_memberBody keeps_members) fun cramped => .bind (.look _) fun _ => ?_
  exact .ite (.reduceAs .plain true) (.pure ())

instance keeps_enumEntry : Keeps (Placed source P) (enumEntry self) :=
  .frame <| .seq (.optional keeps_modifiers) <| .seq (.identifier .plain) <|
    .seq (.optional (hself .arguments)) <|
    .branch (.look _) (keeps_memberBody keeps_members) (.pure false) fun _ =>
      .seq .reduce (.pure _)

instance keeps_enumEntriesWithin (n : Nat) (cramped : Bool) :
    Keeps (Placed source P) (enumEntriesWithin self n cramped) := by
  induction n generalizing cramped with
  | zero => exact .pure cramped
  | succ n ih =>
      refine .orElse (.bind keeps_enumEntry fun last => ?_) (.pure cramped)
      exact .test (.attempt (.sign ",")) (ih _) (.pure _)

instance keeps_enumBody : Keeps (Placed source P) (enumBody self) := by
  refine .node <| .braced <| .bind (.look _) fun bound => ?_
  refine .bind (keeps_enumEntriesWithin bound false) fun cramped => .itemsOf ?_
  exact .ite (hself (.expression 1)) keeps_member

instance keeps_forStatement : Keeps (Placed source P) (forStatement self) :=
  .node <| .seq (.keyword "for") <| .seq
    (.parenthesized <| .seq (.many (hself .annotationEntry)) <|
      .seq keeps_boundVariables <| .seq (.keyword "in") (hself (.expression 1)))
    (.or (.sign ";") (.or keeps_controlBody .none))

instance keeps_whileStatement : Keeps (Placed source P) (whileStatement self) :=
  .node <| .seq (.keyword "while") <| .seq keeps_condition
    (.or (.sign ";") (.or keeps_controlBody .none))

instance keeps_doWhileStatement : Keeps (Placed source P) (doWhileStatement self) := by
  refine .node <| .seq (.keyword "do") ?_
  have hcondition : Keeps (Placed source P) (do keyword "while"; condition self) :=
    .seq (.keyword "while") keeps_condition
  exact .test (.wordIn _) hcondition (.seq keeps_controlBody hcondition)

instance keeps_loopStatement : Keeps (Placed source P) (loopStatement self) :=
  .or keeps_forStatement <| .or keeps_whileStatement <|
    .or keeps_doWhileStatement .none

instance keeps_labeledLoop : Keeps (Placed source P) (labeledLoop self) :=
  .node <| .seq keeps_label keeps_loopStatement

instance keeps_assignmentOrExpression : Keeps (Placed source P) (assignmentOrExpression self) :=
  .frame <| .seq (hself (.expression 1)) <| .optional <| .guarded fun _ =>
    .seq keeps_assignmentSign <| .seq (hself (.expression 1)) .reduce

instance keeps_infixOnArguments : Keeps (Placed source P) (infixOnArguments self) :=
  .frame <| .seq keeps_parenthesizedExpression <| .guarded fun _ =>
    .bind (.wordIn _) fun _ => .seq (.guard _) <| .seq (.identifier .plain) <|
    .seq (hself (.expression (infixLevel + 1))) .reduce

instance keeps_bareEntry : Keeps (Placed source P) ( bareAnnotation self) :=
  .seq (.node (.seq keeps_atSign keeps_userType)) .check

instance keeps_annotatedInfixWithin (n : Nat) :
    Keeps (Placed source P) (annotatedInfixWithin self n) := by
  induction n with
  | zero => exact .mismatch
  | succ n ih =>
      exact .node <| .or (.seq keeps_bareEntry keeps_infixOnArguments) <|
        .or (.seq (hself .annotationEntry) ih) .none

/-- Of the two readings of an annotated declaration either keeps the place. -/
instance keeps_annotatedDeclaration : Keeps (Placed source P) (annotatedDeclaration self) := by
  refine ⟨fun s h => ?_⟩
  have hdeclaration : Keeps (Placed source P) (declaration self) := keeps_declaration
  have hinfix : Keeps (Placed source P) (annotatedInfixWithin self s.size) :=
    keeps_annotatedInfixWithin s.size
  have hdeclared := hdeclaration.ends s h
  have hexpressed := hinfix.ends s h
  unfold annotatedDeclaration
  cases hs : declaration self s with
  | mismatch => trivial
  | unclosed declared =>
      rw [hs] at hdeclared
      exact hdeclared
  | done a declared =>
      rw [hs] at hdeclared
      cases ht : annotatedInfixWithin self s.size s with
      | mismatch | unclosed _ => exact hdeclared
      | done b expressed =>
          rw [ht] at hexpressed
          simp only [Outcome.Ends]
          split
          · exact hexpressed
          · exact hdeclared

instance keeps_statement : Keeps (Placed source P) (statement self) :=
  .test (.look _)
    (.or keeps_annotatedDeclaration (.or keeps_assignmentOrExpression .none))
    (.or keeps_declaration <| .or keeps_loopStatement <|
      .or keeps_labeledLoop <| .or keeps_assignmentOrExpression .none)

instance keeps_production (nonterminal : Nonterminal) :
    Keeps (Placed source P) (production self nonterminal) := by
  cases nonterminal with
  | type => exact keeps_typeExpression
  | annotationEntry => exact keeps_annotationEntry
  | arguments => exact keeps_callArguments
  | lambda => exact keeps_lambda
  | block => exact keeps_block
  | classBody => exact keeps_classBody
  | companionBody => exact keeps_companionBody
  | enumBody => exact keeps_enumBody
  | statement => exact keeps_statement
  | expression level => exact keeps_expressionOf level

end
end NamingLint.Kotlin.Grammar

namespace NamingLint.Kotlin

variable {source : List Char} {P : Concrete → Prop}

/-- At no depth of calls does the grammar lose the place, or make an import of anything. -/
instance keeps_grammar (depth : Nat) (nonterminal : Nonterminal) :
    Parser.Keeps (Placed source P) (grammar depth nonterminal) := by
  induction depth generalizing nonterminal with
  | zero => exact .mismatch
  | succ depth ih => exact Grammar.keeps_production nonterminal

namespace Grammar

open Kotlin.Parser

variable {self : Productions}

instance keeps_qualifiedIdentifier : Keeps (Placed source P) qualifiedIdentifier :=
  .node <| .seq (.identifier .plain) (.many (.seq (.sign ".") (.identifier .plain)))

instance keeps_packageHeader : Keeps (Placed source P) packageHeader :=
  .node <| .seq (.keyword "package") <| .seq keeps_qualifiedIdentifier (.optional (.sign ";"))

instance keeps_shebangLine : Keeps (Placed source P) shebangLine :=
  .guarded fun n => .token_named .plain n

section

variable [hself : ∀ nonterminal, Keeps (Placed source P) (self nonterminal)]

instance keeps_fileAnnotationEntry : Keeps (Placed source P) (fileAnnotationEntry self) :=
  .node <| .seq keeps_atSign <| .seq (.keyword "file") <| .seq (.sign ":")
    keeps_annotationBodies

/-- Where an open bracket takes all that is left, there is no place to keep. -/
instance keeps_topStatement : Keeps (Placed source P) (topStatement self) := by
  refine ⟨fun s h => ?_⟩
  have hinner := (hself .statement).ends _ h.emptyFrame
  unfold topStatement
  cases hs : self .statement { s with nodes := [] } with
  | mismatch => exact h
  | done a next =>
      rw [hs] at hinner
      exact h.rejoin hinner
  | unclosed last =>
      rw [hs] at hinner
      have herror : Keeps (Placed source P) (reduceAs "ERROR" .plain true) := .reduceAs .plain true
      have hreduced := herror.ends last hinner
      simp only
      cases ht : reduceAs "ERROR" .plain true last with
      | mismatch | unclosed _ => exact h
      | done b reduced =>
          rw [ht] at hreduced
          exact ⟨fun hrest => absurd rfl hrest, (h.rejoin hreduced).imports⟩

instance keeps_topLevelWithin (n : Nat) (begun : Bool) :
    Keeps (Placed source P) (topLevelWithin self n begun) := by
  induction n generalizing begun with
  | zero => exact .pure ()
  | succ n ih =>
      refine .test (.look _) (.pure ()) <| .test (.attempt (.sign ";")) (ih begun) ?_
      refine .test keeps_topStatement (ih true) <| .seq .errorToken ?_
      exact .ite (ih true) (.seq (.optional .errorToken) (ih true))

theorem keeps_preamble (himport : Keeps (Placed source P) importDirective) :
    Keeps (Placed source P) (preamble self) :=
  .seq (.optional keeps_shebangLine) <| .seq (.many keeps_fileAnnotationEntry) <|
    .seq (.optional keeps_packageHeader) (.many himport)

theorem keeps_sourceFile (himport : Keeps (Placed source P) importDirective) :
    Keeps (Placed source P) (sourceFile self) :=
  .bind (.look _) fun _ => .bind (.look _) fun _ => .seq (keeps_preamble himport) <|
    .bind (.look _) fun begun => keeps_topLevelWithin _ begun

end
end Grammar

theorem utf8Size_blank {c : Char} (h : Lexis.isBlank c = true) : c.utf8Size = 1 := by
  have hval : c.val.toNat ≤ 0x7F := by
    simp only [Lexis.isBlank, Bool.or_eq_true, beq_iff_eq, Bool.and_eq_true, decide_eq_true_eq] at h
    rcases h with rfl | ⟨-, h⟩
    · decide
    · exact Nat.le_trans (UInt32.le_iff_toNat_le.mp h) (by decide)
  unfold Char.utf8Size
  rw [if_pos (UInt32.le_iff_toNat_le.mpr hval)]

/-- What is skipped at the beginning is counted in octets. -/
theorem skipBlanks_aligned (before : List Char) (text : List Char) :
    ∃ blanks, before ++ text = blanks ++ (skipBlanks (Text.octets before) text).2 ∧
      Text.octets blanks = (skipBlanks (Text.octets before) text).1 := by
  induction text generalizing before with
  | nil => exact ⟨before, rfl, rfl⟩
  | cons c rest ih =>
      unfold skipBlanks
      split
      · next hblank =>
          have hoctets : Text.octets (before ++ [c]) = Text.octets before + 1 := by
            rw [Text.octets_append, Text.octets_cons, utf8Size_blank hblank]
            rfl
          obtain ⟨blanks, htext, hblanks⟩ := ih (before ++ [c])
          rw [hoctets] at htext hblanks
          exact ⟨blanks, by rw [← htext, List.append_assoc]; rfl, hblanks⟩
      · exact ⟨before, rfl, rfl⟩

theorem skipMark_aligned (source : List Char) :
    ∃ mark, source = mark ++ (skipMark source).2 ∧ Text.octets mark = (skipMark source).1 := by
  cases source with
  | nil => exact ⟨[], rfl, rfl⟩
  | cons c rest =>
      by_cases h : c = '\uFEFF'
      · exact ⟨[c], by simp [skipMark, h], by simp [skipMark, h, Text.octets]⟩
      · exact ⟨[], by simp [skipMark, h], by simp [skipMark, h, Text.octets]⟩

/-- What the import directive makes is all that a parsed file has of imports. -/
theorem importsAre_parseConcrete (source : List Char)
    (himport : Parser.Keeps (Placed source P) Grammar.importDirective) :
    (parseConcrete source).ImportsAre P := by
  obtain ⟨mark, hmark, hoffset⟩ := skipMark_aligned source
  obtain ⟨blanks, hblanks, hstart⟩ := skipBlanks_aligned mark (skipMark source).2
  have hroot (stop : Nat) (nodes : List Concrete) (h : ∀ c ∈ nodes, c.ImportsAre P) :
      (Concrete.node
        { kind := "source_file", named := true,
          start := (skipBlanks (skipMark source).1 (skipMark source).2).1, stop }
        nodes.reverse).ImportsAre P := by
    have hkind : isImportKind "source_file" = false := by decide
    exact .other (fun _ => hkind) fun c hc => h c (List.mem_reverse.mp hc)
  unfold parseConcrete
  rw [← hmark, hoffset] at hblanks
  rw [hoffset] at hstart
  have hsource : Parser.Keeps (Placed source P)
      (Grammar.sourceFile (grammar (depthBound (source.length + 1)))) :=
    Grammar.keeps_sourceFile himport
  have hfile := Parser.Keeps.seq Parser.Keeps.trivia hsource
  have hplaced : Placed source P
      { rest := (skipBlanks (skipMark source).1 (skipMark source).2).2,
        offset := (skipBlanks (skipMark source).1 (skipMark source).2).1, broke := false,
        breaks := true, lambdas := true, size := source.length + 1, nodes := [] } :=
    ⟨fun _ => ⟨blanks, hblanks, hstart⟩, nofun⟩
  have hend := hfile.ends _ hplaced
  simp only
  split
  · next hs =>
      rw [hs] at hend
      exact hroot _ _ hend.imports
  · exact hroot _ _ nofun
  · next hs =>
      rw [hs] at hend
      exact hroot _ _ hend.imports

end NamingLint.Kotlin
