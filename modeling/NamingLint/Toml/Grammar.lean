import NamingLint.Toml.Number

/-!
Values, keys, headers and whole documents of TOML. What a key is put under is checked as soon as its
line is read, so the first fault of a text is the one reported.
-/

namespace NamingLint.Toml

open Toml.Parser

/-- The depth up to which arrays and inline tables nest, and the length of dotted keys. -/
def nestingLimit : Nat := 80

def isBareKey (c : Char) : Bool :=
  ('a' ≤ c && c ≤ 'z') || ('A' ≤ c && c ≤ 'Z') || c.isDigit || c == '-' || c == '_'

def simpleKey : Parser Key := do
  let next ← peek
  let (text, span) ← spanned <|
    match next with
    | some '"' => basicString
    | some '\'' => literalString
    | _ => takeWhile1 isBareKey
  pure ⟨String.ofList text, span⟩

/-- The keys of a dotted key, with blanks around each. -/
def dottedKey : Parser (List Key) :=
  checked
    (labelled "key" <| separated (do blanks; let key ← simpleKey; blanks; pure key) (char '.'))
    fun keys => if keys.length < nestingLimit then .ok keys else .error .nestedTooDeeply

def equalsSign : Parser Unit := do
  let _ ← expecting ["\x60.\x60", "\x60=\x60"] (char '=')

def inlineTableOf (pairs : List (List Key × Item)) : Except Cause Table :=
  pairs.foldlM
    (fun table (keys, value) =>
      let (path, key) := splitLast keys
      table.put none path key value)
    (.empty { inline := true })

def orString {α : Type} (p : Parser α) : Parser α :=
  expecting ["\x60\"\x60", "\x60'\x60"] (labelled "string" p)

/-- Applies once nesting is deep enough to be refused. -/
def tooDeep {α : Type} : Parser α :=
  must (fail { cause := some .nestedTooDeeply })

def word (text : String) : Parser Unit := do
  let _ ← must (literal text)

def arrayOf (value : Parser Item) : Parser (List Item) := do
  let _ ← char '['
  must do
    let elements ← optional do
      let elements ← separated (do layout; let v ← value; layout; pure v) (char ',')
      let _ ← optional (char ',')
      pure elements
    layout
    let _ ← expecting ["\x60]\x60"] (labelled "array" (char ']'))
    pure (elements.getD [])

def inlinePair (value : Parser Item) : Parser (List Key × Item) := do
  let keys ← dottedKey
  must do
    equalsSign
    blanks
    let v ← value
    blanks
    pure (keys, v)

/-- A table without the span that it gets from its braces. -/
def inlineTable (value : Parser Item) : Parser Table := do
  let _ ← char '\x7b'
  let table ← must <| checked
    (do
      let pairs ← optional (separated (inlinePair value) (char ','))
      blanks
      pure (pairs.getD []))
    inlineTableOf
  let _ ← must (expecting ["\x60\x7d\x60"] (labelled "inline table" (char '\x7d')))
  pure table

def withSpan (span : Span) : Item → Item
  | .scalar value _ => .scalar value span
  | .array elements _ => .array elements span
  | .table (.mk form entries) => .table (.mk { form with span := some span } entries)
  | .tables reversed => .tables reversed

def scalar (value : Scalar) : Item := .scalar value ⟨0, 0⟩

/-- A value, with room for `depth` more levels of nesting. -/
def value (depth : Nat) : Parser Item := do
  let next ← peek
  let (item, span) ← spanned <|
    match next, depth with
    | none, _ => fail
    | some '"', _ | some '\'', _ => do pure (scalar (.text (String.ofList (← string))))
    | some '[', 0 | some '\x7b', 0 => tooDeep
    | some '[', depth + 1 => do pure (.array (← arrayOf (value depth)) ⟨0, 0⟩)
    | some '\x7b', depth + 1 => do pure (.table (← inlineTable (value depth)))
    | some '_', _ => expecting ["leading digit"] do pure (scalar (.integer (← integer)))
    | some '.', _ => expecting ["leading digit"] do pure (scalar (.float (← float)))
    | some 't', _ => orString do word "true"; pure (scalar (.boolean true))
    | some 'f', _ => orString do word "false"; pure (scalar (.boolean false))
    | some 'i', _ => orString do
        let _ ← literal "inf"
        pure (scalar (.float (.infinite false)))
    | some 'n', _ => orString do
        let _ ← literal "nan"
        pure (scalar (.float .notANumber))
    | some c, _ =>
        if c == '+' || c == '-' || c.isDigit then
          orElse (do dateTime; pure (scalar .dateTime)) <|
            orElse (do pure (scalar (.float (← float)))) do pure (scalar (.integer (← integer)))
        else orString fail
  pure (withSpan span item)

def keyLine : Parser (List Key × Item) := do
  let keys ← dottedKey
  must do
    equalsSign
    blanks
    let v ← value (nestingLimit - 1)
    lineTrailing
    pure (keys, v)

/-- A header between its brackets, and the range from them to the next line. -/
def header (opening closing : String) : Parser (List Key × Span) :=
  spanned do
    let _ ← literal opening
    let keys ← must dottedKey
    let _ ← must (expecting ["\x60.\x60", "\x60" ++ closing ++ "\x60"] (literal closing))
    must lineTrailing
    pure keys

def tableLine (doc : Document) : Parser Document :=
  labelled "table header" do
    let two ← ahead (exactly 2 fun _ => true)
    if two == ['[', '['] then
      checked (header "[[" "]]") fun (keys, span) => doc.openElement keys span
    else
      checked (header "[" "]") fun (keys, span) => doc.openTable keys span

/-- One line, or what is left of one. -/
def documentLine (doc : Document) : Parser Document := do
  let next ← peek
  let doc ← match next with
    | none => fail
    | some '#' => must do comment; lineEnd; pure doc
    | some '[' => must (tableLine doc)
    | some '\n' | some '\r' => do let _ ← newline; pure doc
    | some _ => must <| checked keyLine fun (keys, item) => doc.put keys item
  blanks
  pure doc

def linesWithin : Nat → Document → Parser Document
  | 0, doc => pure doc
  | n + 1, doc => do
      match ← optional (documentLine doc) with
      | some doc => linesWithin n doc
      | none => pure doc

def document : Parser Document := fun c =>
  (do
    let _ ← optional (char '\uFEFF')
    blanks
    let doc ← linesWithin (c.rest.length + 1) {}
    atEnd
    pure doc : Parser Document) c

structure SyntaxError where
  offset : Nat
  complaint : Complaint
  deriving Repr, DecidableEq

def parse (text : List Char) : Except SyntaxError Table :=
  match document ⟨text, 0⟩ with
  | .done doc _ => .ok doc.root
  | .failed _ offset complaint => .error ⟨offset, complaint⟩

end NamingLint.Toml
