import Mathlib.Data.List.TakeWhile
import NamingLint.Kotlin.Lowering

/-!
Where a function declaration has its name and its return type. Both are described by the children
that the grammar puts there, whatever they are: the list may come from a source that is malformed.
What stands in the slices of the source that the two tokens cover is not said here.
-/

namespace NamingLint.Kotlin.Concrete

/-- The last identifier of the children up to the parameters. -/
def lastIdentifier? (children : List Concrete) : Option Concrete :=
  (children.takeWhile fun c => !c.isParameters).reverse.find? isIdentifier

/-- Reads what follows the parameters: a colon and then a named child. -/
def typeAfterColon? : List Concrete → Option Concrete
  | colon :: type :: _ => if colon.kind == ":" && type.head.named then some type else none
  | _ => none

def returnType? (children : List Concrete) : Option Concrete :=
  typeAfterColon? ((children.dropWhile fun c => !c.isParameters).drop 1)

theorem readSignature_proper (namedByField : Bool) (seen : Signature) (children : List Concrete) :
    readSignature namedByField seen children =
      readSignature namedByField seen (proper children) := by
  induction children generalizing seen with
  | nil => rfl
  | cons c rest ih =>
      cases hextra : c.head.extra with
      | true => simpa [readSignature, proper, hextra] using ih seen
      | false =>
          have hproper : proper (c :: rest) = c :: proper rest := by simp [proper, hextra]
          rw [hproper]
          simp only [readSignature, hextra, ih]

/-- Behind the parameters only the next two children are looked at. -/
theorem readSignature_typed (namedByField : Bool) (name : Option Concrete) {rest : List Concrete}
    (hproper : ∀ c ∈ rest, c.head.extra = false) :
    let seen := readSignature namedByField { name, seenParameters := true } rest
    seen.name = name ∧ seen.returnType = typeAfterColon? rest := by
  cases rest with
  | nil => exact ⟨rfl, rfl⟩
  | cons colon rest =>
      obtain ⟨hcolon, hrest⟩ := List.forall_mem_cons.mp hproper
      cases hkind : colon.kind == ":" with
      | false => cases rest <;> simp [readSignature, typeAfterColon?, hcolon, hkind]
      | true =>
          cases rest with
          | nil => simp [readSignature, typeAfterColon?, hcolon, hkind]
          | cons type rest =>
              have htype := hrest type List.mem_cons_self
              cases hnamed : type.head.named <;>
                simp [readSignature, typeAfterColon?, hcolon, hkind, htype, hnamed]

theorem lastIdentifier?_cons {c : Concrete} (h : c.isParameters = false) (rest : List Concrete) :
    lastIdentifier? (c :: rest) =
      (lastIdentifier? rest).or (if c.isIdentifier then some c else none) := by
  simp [lastIdentifier?, h, List.find?_append, List.find?_singleton]

theorem readSignature_untyped (namedByField : Bool) (name : Option Concrete)
    {children : List Concrete} (hproper : ∀ c ∈ children, c.head.extra = false) :
    let seen := readSignature namedByField { name } children
    seen.name = (if namedByField then name else (lastIdentifier? children).or name) ∧
      seen.returnType = returnType? children := by
  induction children generalizing name with
  | nil => cases namedByField <;> exact ⟨rfl, rfl⟩
  | cons c rest ih =>
      obtain ⟨hc, hrest⟩ := List.forall_mem_cons.mp hproper
      cases hparameters : c.isParameters with
      | true =>
          obtain ⟨hname, htype⟩ := readSignature_typed namedByField name hrest
          simp [readSignature, hc, hparameters, hname, htype, lastIdentifier?, returnType?]
      | false =>
          have hback : returnType? (c :: rest) = returnType? rest := by
            simp [returnType?, hparameters]
          rw [lastIdentifier?_cons hparameters, hback]
          cases hidentifier : c.isIdentifier <;> cases namedByField <;>
            simp [readSignature, hc, hparameters, hidentifier, ih _ hrest]

/-- The loop over the children in terms of what stands before and behind the parameters. -/
theorem functionDeclaration_eq (source : List Char) (children : List Concrete) :
    functionDeclaration source children =
      { name := ((nameField? children).or (lastIdentifier? (proper children))).map (token source)
        returnType := (returnType? (proper children)).map (token source) } := by
  have hproper : ∀ c ∈ proper children, c.head.extra = false := fun c hc => by
    simpa using (List.mem_filter.mp hc).2
  unfold functionDeclaration
  simp only [readSignature_proper _ _ children]
  obtain ⟨hname, htype⟩ :=
    readSignature_untyped (nameField? children).isSome (nameField? children) hproper
  rw [hname, htype]
  cases nameField? children <;> simp

/-- The first list of parameters begins the second part; without one, all is in the first. -/
structure DividedAtParameters (children front back : List Concrete) : Prop where
  whole : proper children = front ++ back
  before : ∀ c ∈ front, c.isParameters = false
  first : back = [] ∨ ∃ parameters rest, back = parameters :: rest ∧ parameters.isParameters = true

/-- A list of parameters, the first one, and at once a colon and at once the type. -/
def DeclaredType (children : List Concrete) (type : Concrete) : Prop :=
  ∃ front parameters colon back,
    proper children = front ++ [parameters, colon, type] ++ back ∧
      (∀ c ∈ front, c.isParameters = false) ∧ parameters.isParameters = true ∧
      colon.kind = ":" ∧ type.head.named = true

/-- The child that is looked up by its role. -/
def NameField (children : List Concrete) (c : Concrete) : Prop :=
  ∃ front back, children = front ++ c :: back ∧ (∀ d ∈ front, d.head.role ≠ .name) ∧
    c.head.role = .name

def LastIdentifier (front : List Concrete) (c : Concrete) : Prop :=
  ∃ before after, front = before ++ c :: after ∧ c.isIdentifier = true ∧
    ∀ d ∈ after, d.isIdentifier = false

inductive NamedBy (children : List Concrete) (c : Concrete) : Prop where
  | field (lookup : NameField children c) (identifier : c.isIdentifier = true)
  | last {front back : List Concrete} (lookup : ∀ d, NameField children d → d.isIdentifier = false)
      (divided : DividedAtParameters children front back) (identifier : LastIdentifier front c)

/-- Extra children put in anywhere. An extra child fills no role. -/
inductive WithExtras : List Concrete → List Concrete → Prop where
  | nil : WithExtras [] []
  | keep (c : Concrete) {a b : List Concrete} (h : WithExtras a b) : WithExtras (c :: a) (c :: b)
  | insert {c : Concrete} (extra : c.head.extra = true) (role : c.head.role = .plain)
      {a b : List Concrete} (h : WithExtras a b) : WithExtras a (c :: b)

variable {children : List Concrete}

theorem dividedAtParameters_takeWhile (children : List Concrete) :
    DividedAtParameters children ((proper children).takeWhile fun c => !c.isParameters)
      ((proper children).dropWhile fun c => !c.isParameters) where
  whole := List.takeWhile_append_dropWhile.symm
  before := fun c hc => by simpa using List.mem_takeWhile_imp hc
  first := by
    have hhead := List.head?_dropWhile_not (fun c => !isParameters c) (proper children)
    cases hback : (proper children).dropWhile fun c => !c.isParameters with
    | nil => exact .inl rfl
    | cons parameters rest => exact .inr ⟨parameters, rest, rfl, by simpa [hback] using hhead⟩

/-- There is one such division. -/
theorem DividedAtParameters.eq {front back : List Concrete}
    (h : DividedAtParameters children front back) :
    front = (proper children).takeWhile (fun c => !c.isParameters) ∧
      back = (proper children).dropWhile (fun c => !c.isParameters) := by
  have hbefore : ∀ c ∈ front, (!c.isParameters) = true := fun c hc => by simp [h.before c hc]
  rw [h.whole, List.takeWhile_append_of_pos hbefore, List.dropWhile_append_of_pos hbefore]
  rcases h.first with rfl | ⟨parameters, rest, rfl, hparameters⟩
  · simp
  · simp [hparameters]

theorem LastIdentifier.mem_proper {front back : List Concrete} {c : Concrete}
    (h : LastIdentifier front c) (divided : DividedAtParameters children front back) :
    c ∈ proper children := by
  obtain ⟨before, after, rfl, -, -⟩ := h
  rw [divided.whole]
  exact List.mem_append_left _ (List.mem_append_right _ List.mem_cons_self)

theorem typeAfterColon?_eq_some (rest : List Concrete) (type : Concrete) :
    typeAfterColon? rest = some type ↔
      ∃ colon back, rest = colon :: type :: back ∧ colon.kind = ":" ∧ type.head.named = true := by
  unfold typeAfterColon?
  split
  · next colon next back =>
      rw [Option.ite_none_right_eq_some, Bool.and_eq_true, beq_iff_eq, Option.some.injEq]
      constructor
      · rintro ⟨⟨hcolon, hnamed⟩, rfl⟩
        exact ⟨colon, back, rfl, hcolon, hnamed⟩
      · rintro ⟨_, _, heq, hcolon, hnamed⟩
        obtain ⟨rfl, hrest⟩ := List.cons.inj heq
        obtain ⟨rfl, -⟩ := List.cons.inj hrest
        exact ⟨⟨hcolon, hnamed⟩, rfl⟩
  · next hshort =>
      refine iff_of_false nofun ?_
      rintro ⟨colon, back, rfl, -, -⟩
      exact hshort colon type back rfl

theorem returnType?_eq_some (children : List Concrete) (type : Concrete) :
    returnType? (proper children) = some type ↔ DeclaredType children type := by
  unfold returnType?
  rw [typeAfterColon?_eq_some]
  constructor
  · rintro ⟨colon, back, hrest, hcolon, hnamed⟩
    have hdivided := dividedAtParameters_takeWhile children
    rcases hdivided.first with hnone | ⟨parameters, rest, hback, hparameters⟩
    · rw [hnone] at hrest
      cases hrest
    · rw [hback, List.drop_one, List.tail_cons] at hrest
      refine ⟨_, parameters, colon, back, ?_, hdivided.before, hparameters, hcolon, hnamed⟩
      calc proper children
          = (proper children).takeWhile (fun c => !c.isParameters) ++ parameters :: rest := by
            rw [← hback]
            exact hdivided.whole
        _ = _ := by simp [hrest]
  · rintro ⟨front, parameters, colon, back, hwhole, hbefore, hparameters, hcolon, hnamed⟩
    have hdivided : DividedAtParameters children front (parameters :: colon :: type :: back) :=
      ⟨by simpa using hwhole, hbefore, .inr ⟨parameters, _, rfl, hparameters⟩⟩
    exact ⟨colon, back, by rw [← hdivided.eq.2]; rfl, hcolon, hnamed⟩

theorem find?_name_eq_some (children : List Concrete) (c : Concrete) :
    children.find? (fun d => d.head.role == .name) = some c ↔ NameField children c := by
  rw [List.find?_eq_some_iff_append]
  simp only [beq_iff_eq, Bool.not_eq_true', beq_eq_false_iff_ne]
  constructor
  · rintro ⟨hrole, front, back, rfl, hfront⟩
    exact ⟨front, back, rfl, hfront, hrole⟩
  · rintro ⟨front, back, rfl, hfront, hrole⟩
    exact ⟨hrole, front, back, rfl, hfront⟩

theorem nameField?_eq_some (children : List Concrete) (c : Concrete) :
    nameField? children = some c ↔ NameField children c ∧ c.isIdentifier = true := by
  rw [nameField?, Option.filter_eq_some_iff, find?_name_eq_some]

theorem nameField?_eq_none (children : List Concrete) :
    nameField? children = none ↔ ∀ c, NameField children c → c.isIdentifier = false := by
  rw [nameField?, Option.filter_eq_none_iff]
  simp only [find?_name_eq_some, Bool.not_eq_true]

theorem lastIdentifier?_eq_some {front back : List Concrete}
    (h : DividedAtParameters children front back) (c : Concrete) :
    lastIdentifier? (proper children) = some c ↔ LastIdentifier front c := by
  rw [lastIdentifier?, ← h.eq.1, List.find?_eq_some_iff_append]
  simp only [Bool.not_eq_true']
  constructor
  · rintro ⟨hidentifier, after, before, heq, hafter⟩
    refine ⟨before.reverse, after.reverse, ?_, hidentifier, ?_⟩
    · rw [← List.reverse_reverse front, heq]
      simp
    · intro d hd
      exact hafter d (List.mem_reverse.mp hd)
  · rintro ⟨before, after, rfl, hidentifier, hafter⟩
    refine ⟨hidentifier, after.reverse, before.reverse, by simp, ?_⟩
    intro d hd
    exact hafter d (List.mem_reverse.mp hd)

/-- The role is looked at first, and what stands before the parameters only if that fails. -/
theorem name_eq_some (children : List Concrete) (c : Concrete) :
    (nameField? children).or (lastIdentifier? (proper children)) = some c ↔ NamedBy children c := by
  have hdivided := dividedAtParameters_takeWhile children
  cases hfield : nameField? children with
  | some d =>
      obtain ⟨hlookup, hidentifier⟩ := (nameField?_eq_some children d).mp hfield
      rw [Option.some_or, Option.some.injEq]
      constructor
      · rintro rfl
        exact .field hlookup hidentifier
      · intro h
        cases h with
        | field hc hcidentifier =>
            have := (nameField?_eq_some children c).mpr ⟨hc, hcidentifier⟩
            exact Option.some.inj (hfield.symm.trans this)
        | last hnone _ _ => exact absurd (hnone d hlookup) (by simp [hidentifier])
  | none =>
      have hnone := (nameField?_eq_none children).mp hfield
      rw [Option.none_or, lastIdentifier?_eq_some hdivided]
      constructor
      · intro h
        exact .last hnone hdivided h
      · intro h
        cases h with
        | field hc hcidentifier => exact absurd hcidentifier (by simp [hnone c hc])
        | last _ hother h => rwa [← hother.eq.1]

theorem WithExtras.refl (children : List Concrete) : WithExtras children children := by
  induction children with
  | nil => exact .nil
  | cons c rest ih => exact .keep c ih

theorem WithExtras.proper_eq {others : List Concrete} (h : WithExtras children others) :
    proper others = proper children := by
  induction h with
  | nil => rfl
  | keep c _ ih =>
      cases hextra : c.head.extra with
      | false => simpa [proper, hextra] using ih
      | true => simpa [proper, hextra] using ih
  | insert extra _ _ ih => simpa [proper, extra] using ih

theorem WithExtras.nameField?_eq {others : List Concrete} (h : WithExtras children others) :
    nameField? others = nameField? children := by
  unfold nameField?
  refine congrArg (Option.filter isIdentifier) ?_
  induction h with
  | nil => rfl
  | keep c _ ih => rw [List.find?_cons, List.find?_cons, ih]
  | insert _ role _ ih => simpa [role] using ih

theorem WithExtras.functionDeclaration_eq {others : List Concrete}
    (h : WithExtras children others) (source : List Char) :
    functionDeclaration source others = functionDeclaration source children := by
  rw [Concrete.functionDeclaration_eq, Concrete.functionDeclaration_eq, h.proper_eq,
    h.nameField?_eq]

theorem nodeKind_function (source : List Char) {head : Head}
    (h : head.kind = "function_declaration") (children : List Concrete) :
    (node head children).nodeKind source = .function (functionDeclaration source children) := by
  simp [nodeKind, kind, Concrete.head, h, isImportKind, Concrete.children]

/-- The name and the return type of a function declaration with any children. -/
theorem nodeKind_declaration (source : List Char) (head : Head)
    (h : head.kind = "function_declaration") (children : List Concrete) :
    ∃ f, (node head children).nodeKind source = .function f ∧
      (∀ t, f.returnType = some t ↔ ∃ type, DeclaredType children type ∧ t = type.token source) ∧
      (∀ t, f.name = some t ↔ ∃ c, NamedBy children c ∧ t = c.token source) ∧
      ∀ others, WithExtras children others →
        (node head others).nodeKind source = .function f := by
  refine ⟨functionDeclaration source children, nodeKind_function source h children, fun t => ?_,
    fun t => ?_, fun others hothers => ?_⟩
  · rw [functionDeclaration_eq, Option.map_eq_some_iff]
    simp only [returnType?_eq_some, eq_comm (a := t)]
  · rw [functionDeclaration_eq, Option.map_eq_some_iff]
    simp only [name_eq_some, eq_comm (a := t)]
  · rw [nodeKind_function source h others, hothers.functionDeclaration_eq source]

def leafAt (kind : String) (start stop : Nat) (named : Bool := true) (extra : Bool := false) :
    Concrete :=
  .node { kind, named, extra, start, stop } []

/-- The children of `fun A.b():T:U`, a function with a receiver and a colon too many. -/
def overtyped : List Concrete :=
  [leafAt "fun" 0 3 false, leafAt "identifier" 4 5, leafAt "." 5 6 false, leafAt "identifier" 6 7,
   leafAt "function_value_parameters" 7 9, leafAt ":" 9 10 false, leafAt "user_type" 10 11,
   leafAt ":" 11 12 false, leafAt "user_type" 12 13]

/-- An error that is an identifier, put in between the name and the parameters, changes nothing. -/
theorem nodeKind_overtyped :
    (node { kind := "function_declaration", named := true, start := 0, stop := 13 }
        (overtyped.insertIdx 4 (leafAt "identifier" 7 7 true true))).nodeKind
        "fun A.b():T:U".toList =
      .function { name := some ⟨"b", 6⟩, returnType := some ⟨"T", 10⟩ } := by
  obtain ⟨f, -, htype, hname, hextras⟩ := nodeKind_declaration "fun A.b():T:U".toList
    { kind := "function_declaration", named := true, start := 0, stop := 13 } rfl overtyped
  have hfields : ∀ d, ¬ NameField overtyped d := by
    intro d hd
    have hnone : overtyped.find? (fun c => c.head.role == .name) = none := by decide
    exact nomatch hnone.symm.trans ((find?_name_eq_some overtyped d).mpr hd)
  have hdivided : DividedAtParameters overtyped (overtyped.take 4) (overtyped.drop 4) :=
    ⟨rfl, by decide, .inr ⟨leafAt "function_value_parameters" 7 9, overtyped.drop 5, rfl, rfl⟩⟩
  have htyped : f.returnType = some ⟨"T", 10⟩ :=
    (htype _).mpr ⟨leafAt "user_type" 10 11,
      ⟨overtyped.take 4, leafAt "function_value_parameters" 7 9, leafAt ":" 9 10 false,
        overtyped.drop 7, rfl, by decide, rfl, rfl, rfl⟩, by decide⟩
  have hnamed : f.name = some ⟨"b", 6⟩ :=
    (hname _).mpr ⟨leafAt "identifier" 6 7,
      .last (fun d hd => absurd hd (hfields d)) hdivided ⟨overtyped.take 3, [], rfl, rfl, nofun⟩,
      by decide⟩
  have hinserted : WithExtras overtyped
      (overtyped.insertIdx 4 (leafAt "identifier" 7 7 true true)) :=
    .keep _ (.keep _ (.keep _ (.keep _ (.insert rfl rfl (.refl (overtyped.drop 4))))))
  rw [hextras _ hinserted, ← htyped, ← hnamed]

end NamingLint.Kotlin.Concrete
