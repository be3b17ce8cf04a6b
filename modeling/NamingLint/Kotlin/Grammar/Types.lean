import NamingLint.Kotlin.Grammar.Nonterminal

/-!
Types: names with arguments, nullable, parenthesized and function types, and the annotations and
modifiers before them. A type leaves one node; the word `dynamic` leaves none.
-/

namespace NamingLint.Kotlin.Grammar

open Kotlin.Parser

variable (self : Productions)

/-- A word of the list that another name, annotation or type follows. -/
def modifierWord (kind : String) (words : List String) : Parser Unit := do
  let w ← nextWord
  guard (words.contains w)
  node kind (token (anonymous w) w.length)
  guard (← nextIs fun c => Lexis.isWordStart c || c == '@' || c == '\x60')

def typeProjection : Parser Unit :=
  node "type_projection" do
    optional (node "type_projection_modifiers" (modifierWord "variance_modifier" ["in", "out"]))
    choice [sign "*", self .type]

def typeArguments : Parser Unit :=
  node "type_arguments" do
    sign "<"
    commaList1 (typeProjection self)
    optional (sign ",")
    sign ">"

def typeSegment : Parser Unit := do
  identifier
  optional (typeArguments self)

def userTypeParts : Parser Unit := do
  typeSegment self
  many do signUnless "." ['.']; typeSegment self

def userType : Parser Unit :=
  node "user_type" (userTypeParts self)

def useSiteTargets : List String :=
  ["field", "property", "get", "set", "receiver", "param", "setparam", "delegate"]

/-- An annotation without its `@`: a type, with arguments if they begin on its line. -/
def annotationBody : Parser Unit :=
  frame do
    userType self
    let args ← look fun s => s.rest.head? == some '(' && !s.broke
    if args then
      self .arguments
      reduce "constructor_invocation"
    else pure ()

def annotationBodies : Parser Unit :=
  choice
    [do sign "["; annotationBody self; many (annotationBody self); closing "]",
     annotationBody self]

/-- The `@`, which stands directly before its annotation. -/
def atSign : Parser Unit := do
  guard (← startsWith "@")
  leaf (anonymous "@") 1

def annotationEntry : Parser Unit :=
  node "annotation" do
    atSign
    optional <| node "use_site_target" do
      let w ← nextWord
      guard (useSiteTargets.contains w)
      token (anonymous w) w.length
      signUnless ":" [':']
    annotationBodies self

def suspendModifier : Parser Unit := do
  keyword "suspend"
  guard (← nextIs fun c => Lexis.isWordStart c || c == '(' || c == '@' || c == '\x60')

def typeModifiers : Parser Unit :=
  node "type_modifiers" do
    let one := choice [self .annotationEntry, suspendModifier]
    one
    many one

def functionTypeParameter : Parser Unit :=
  choice
    [node "parameter" do identifier; signUnless ":" [':']; self .type,
     self .type]

/-- A list of types in parentheses, the parameters of a function type if an arrow follows. -/
def typesInParentheses : Parser Unit :=
  frame do
    parenthesized (commaList (functionTypeParameter self))
    if ← startsWith "->" then reduce "function_type_parameters" else reduce "parenthesized_type"

def functionTypeResult : Parser Unit := do
  sign "->"
  self .type
  reduce "function_type"

def nullMarks : Parser Unit := do
  signUnless "?" [':', '.']
  many (signUnless "?" [':', '.'])

/-- A name or a type in parentheses, and whether it was the parameters of a whole function type. -/
def plainType : Parser Bool := do
  if ← nextIs (· == '(') then
    typesInParentheses self
    attempt (functionTypeResult self)
  else
    userTypeParts self
    reduce "user_type"
    pure false

def typeExpression : Parser Unit :=
  frame do
    optional (typeModifiers self)
    if ← attempt (keyword "dynamic") then pure ()
    else do
      if ← plainType self then pure ()
      else do
        if ← attempt nullMarks then reduce "nullable_type" else pure ()
        choice
          [do sign "."; typesInParentheses self; functionTypeResult self,
           do signUnless "&" ['&']; self .type; reduce "non_nullable_type",
           pure ()]

/-- The type before the dot of a function or property with a receiver: all segments of a dotted name
but the last. -/
def receiver : Parser Unit := do
  frame do
    optional (typeModifiers self)
    let more : Parser Unit := do guard (← nextIs fun c => c == '.' || c == '?')
    if ← nextIs (· == '(') then typesInParentheses self
    else do
      typeSegment self
      more
      many do sign "."; typeSegment self; more
      reduce "user_type"
    if ← attempt (do sign "?"; many (sign "?")) then reduce "nullable_type" else pure ()
  sign "."

def typeParameter : Parser Unit :=
  node "type_parameter" do
    optional <| node "type_parameter_modifiers" do
      let one := choice
        [self .annotationEntry, modifierWord "reification_modifier" ["reified"],
         modifierWord "variance_modifier" ["in", "out"]]
      one
      many one
    identifier
    optional do sign ":"; self .type

def typeParameters : Parser Unit :=
  node "type_parameters" do
    sign "<"
    commaList1 (typeParameter self)
    optional (sign ",")
    sign ">"

def typeConstraint : Parser Unit :=
  node "type_constraint" do
    many (self .annotationEntry)
    identifier
    sign ":"
    self .type

def typeConstraints : Parser Unit :=
  node "type_constraints" do
    guard (← continues)
    keyword "where"
    commaList1 (typeConstraint self)

end NamingLint.Kotlin.Grammar
