import NamingLint.Decimal.Binary64

/-!
TOML documents as trees that remember where they were written. Tables keep their keys in the order
in which they were first put there. A table is implicit if only deeper headers or dotted keys made
it, and dotted if a dotted key did; both decide whether it may still be added to.
-/

namespace NamingLint.Toml

/-- A range of octets. -/
structure Span where
  start : Nat
  stop : Nat
  deriving Repr, DecidableEq

structure Key where
  text : String
  span : Span
  deriving Repr, DecidableEq

inductive Scalar where
  | text (s : String)
  | integer (i : Int)
  | float (f : Decimal.Binary64)
  | boolean (b : Bool)
  | dateTime
  deriving Repr, DecidableEq

structure TableForm where
  inline : Bool := false
  implicit : Bool := false
  dotted : Bool := false
  span : Option Span := none
  deriving Repr, DecidableEq

mutual

inductive Item where
  | scalar (value : Scalar) (span : Span)
  | array (elements : List Item) (span : Span)
  | table (t : Table)
  /-- The tables of repeated double headers, the last one first. -/
  | tables (reversed : List Table)

inductive Table where
  | mk (form : TableForm) (entries : List (Key × Item))

end

namespace Table

def form : Table → TableForm
  | mk form _ => form

def entries : Table → List (Key × Item)
  | mk _ entries => entries

def empty (form : TableForm) : Table := mk form []

end Table

/-- Why a document that is written correctly is still refused, or a number cannot be kept. -/
inductive Cause where
  /-- The table is named where the key was to be put into a table of its own. -/
  | duplicateKey (key : String) (table : Option (List String))
  | notATable (path : List String) (actual : String)
  | outOfRange
  | nestedTooDeeply
  | numberTooLarge
  | numberTooSmall
  deriving Repr, DecidableEq

def Cause.message : Cause → String
  | .duplicateKey key none => "duplicate key \x60" ++ key ++ "\x60"
  | .duplicateKey key (some []) => "duplicate key \x60" ++ key ++ "\x60 in document root"
  | .duplicateKey key (some path) =>
      "duplicate key \x60" ++ key ++ "\x60 in table \x60" ++ ".".intercalate path ++ "\x60"
  | .notATable path actual =>
      "dotted key \x60" ++ ".".intercalate path ++ "\x60 attempted to extend non-table type (" ++
        actual ++ ")"
  | .outOfRange => "value is out of range"
  | .nestedTooDeeply => "recursion limit exceeded"
  | .numberTooLarge => "number too large to fit in target type"
  | .numberTooSmall => "number too small to fit in target type"

def Item.typeName : Item → String
  | .scalar (.text _) _ => "string"
  | .scalar (.integer _) _ => "integer"
  | .scalar (.float _) _ => "float"
  | .scalar (.boolean _) _ => "boolean"
  | .scalar .dateTime _ => "datetime"
  | .array _ _ => "array"
  | .table t => if t.form.inline then "inline table" else "table"
  | .tables _ => "array of tables"

/-- Where the item was written; tables that no header opened were not written as such. -/
def Item.span? : Item → Option Span
  | .scalar _ span | .array _ span => some span
  | .table t => t.form.span
  | .tables reversed =>
      match reversed.getLast?, reversed.head? with
      | some first, some last =>
          match first.form.span, last.form.span with
          | some a, some b => some ⟨a.start, b.stop⟩
          | _, _ => none
      | _, _ => none

def lookup (key : String) : List (Key × Item) → Option Item
  | [] => none
  | (k, item) :: rest => if k.text = key then some item else lookup key rest

/-- Replaces the item of a key that is present, or adds the key at the end. -/
def store (key : Key) (item : Item) : List (Key × Item) → List (Key × Item)
  | [] => [(key, item)]
  | (k, old) :: rest => if k.text = key.text then (k, item) :: rest else (k, old) :: store key item rest

def remove (key : String) (entries : List (Key × Item)) : List (Key × Item) :=
  entries.filter fun (k, _) => k.text != key

/-- How a path leads down: by the dotted key of a value, or by a header. -/
inductive Descent where
  | dottedKey
  | header
  deriving Repr, DecidableEq

/-- Changes the table at the end of a path. Missing tables on the way are made implicitly; of an
array of tables the last one is meant. `taken` is the path above the table. -/
def Table.modifyAt (descent : Descent) (change : Table → Except Cause Table) :
    List String → List Key → Table → Except Cause Table
  | _, [], table => change table
  | taken, key :: path, .mk form entries => do
      let taken := taken ++ [key.text]
      let dotted := descent == .dottedKey
      let next ← match lookup key.text entries with
        | none => do
            let child := Table.empty { inline := form.inline, implicit := true, dotted }
            pure (Item.table (← child.modifyAt descent change taken path))
        | some (.table child) =>
            if child.form.inline && !form.inline then
              throw (.notATable taken (Item.table child).typeName)
            else if dotted && !child.form.implicit then throw (.duplicateKey key.text none)
            else pure (Item.table (← child.modifyAt descent change taken path))
        | some (.tables (last :: earlier)) =>
            pure (Item.tables ((← last.modifyAt descent change taken path) :: earlier))
        | some item => throw (.notATable taken item.typeName)
      pure (.mk form (store key next entries))

/-- Puts a value under a dotted key into a table; `table` is what a clash is reported with. -/
def Table.put (clash : Option (List String)) (path : List Key) (key : Key) (value : Item)
    (table : Table) : Except Cause Table :=
  table.modifyAt .dottedKey (fun
    | .mk form entries =>
        if form.dotted == path.isEmpty then throw (.duplicateKey key.text none)
        else if (lookup key.text entries).isSome then throw (.duplicateKey key.text clash)
        else pure (.mk form (store key value entries))) [] path

/-- Opens the table of a header. One that exists already is taken over if it is only implicit. -/
def Table.openTable (path : List Key) (key : Key) (span : Span) (root : Table) :
    Except Cause Table :=
  let clash : Cause := .duplicateKey key.text (some (path.map Key.text))
  root.modifyAt .header (fun
    | .mk form entries => do
        let content ← match lookup key.text entries with
          | none => pure []
          | some (.table t) =>
              if t.form.implicit && !t.form.dotted && !t.form.inline then pure t.entries
              else throw clash
          | some _ => throw clash
        pure (.mk form (store key (.table (.mk { span := some span } content)) (remove key.text entries))))
    [] path

/-- Adds a table to the array of a double header. -/
def Table.openElement (path : List Key) (key : Key) (span : Span) (root : Table) :
    Except Cause Table :=
  let clash : Cause := .duplicateKey key.text (some (path.map Key.text))
  root.modifyAt .header (fun
    | .mk form entries => do
        let earlier ← match lookup key.text entries with
          | none => pure []
          | some (.tables earlier) => pure earlier
          | some _ => throw clash
        pure (.mk form (store key (.tables (.empty { span := some span } :: earlier)) entries)))
    [] path

/-- The last key and those before it. -/
def splitLast (keys : List Key) : List Key × Key :=
  (keys.dropLast, keys.getLast?.getD ⟨"", ⟨0, 0⟩⟩)

/-- A document being read: its root and the path of the header at work. -/
structure Document where
  root : Table := .empty {}
  current : List Key := []

namespace Document

/-- The table at work is written as far as its last value. -/
def extend (stop : Nat) : Table → Table
  | .mk form entries =>
      .mk { form with span := form.span.map fun span => { span with stop } } entries

def put (keys : List Key) (value : Item) (doc : Document) : Except Cause Document := do
  let (path, key) := splitLast keys
  let clash := some (doc.current.map Key.text)
  let stop := value.span?.elim 0 Span.stop
  let root ← doc.root.modifyAt .header (fun t => (extend stop t).put clash path key value) []
    doc.current
  pure { doc with root }

def openTable (keys : List Key) (span : Span) (doc : Document) : Except Cause Document := do
  let (path, key) := splitLast keys
  pure { root := ← doc.root.openTable path key span, current := keys }

def openElement (keys : List Key) (span : Span) (doc : Document) : Except Cause Document := do
  let (path, key) := splitLast keys
  pure { root := ← doc.root.openElement path key span, current := keys }

end Document
end NamingLint.Toml
