import NamingLint.Log.Record
import NamingLint.Text.Alphanumeric
import NamingLint.Text.Pieces
import NamingLint.Text.Space

/-!
Which log records are shown. A filter is a list of directives `target[span{field}]=level`, of
which the most specific one that is about a record decides; a record that no directive is about is
not shown. Directives about spans are about no record, because nothing here opens a span.
-/

namespace NamingLint.Log

/-- The greatest verbosity that is let through; zero lets nothing through. -/
abbrev Threshold := Nat

def Threshold.all : Threshold := 5

def Threshold.names : List (String × Threshold) :=
  [("off", 0), ("error", 1), ("warn", 2), ("info", 3), ("debug", 4), ("trace", 5)]

/-- A number as it is written in decimal, with a plus sign or without. -/
def readNumber? (text : List Char) : Option Nat :=
  let digits := if text.head? = some '+' then text.tail else text
  if digits.isEmpty || !digits.all Char.isDigit then none
  else some (digits.foldl (fun n c => 10 * n + (c.toNat - '0'.toNat)) 0)

def Threshold.ofText? (text : List Char) : Option Threshold :=
  match readNumber? text with
  | some n => if n ≤ Threshold.all then some n else none
  | none => Threshold.names.lookup (String.ofList (text.map Char.toLower))

structure Directive where
  target : Option (List Char) := none
  /-- A span, even one without a name. -/
  span : Option (List Char) := none
  /-- Names of fields, each with a value that is asked for, if one is. -/
  fields : List (List Char × Option (List Char)) := []
  threshold : Threshold := Threshold.all
  deriving Repr, DecidableEq

namespace Directive

/-- Where a directive is read. The numbers say where the part began. -/
inductive Stage where
  | beginning
  | word (start : Nat)
  | span (start : Nat)
  | field (start : Nat)
  | fieldsDone
  | spanDone
  | threshold (start : Nat)
  deriving Repr, DecidableEq

def cut (text : List Char) (start stop : Nat) : List Char :=
  (text.drop start).take (stop - start)

def beginsWord (c : Char) : Bool :=
  c == '-' || c == ':' || c == '_' || Text.isAlphanumeric c

/-- A field is written as a name, or as a name, an equals sign and a value. -/
def fieldOf (text : List Char) : List Char × Option (List Char) :=
  match text.dropWhile (· != '=') with
  | [] => (text, none)
  | _ :: value => (text.takeWhile (· != '='), some (value.takeWhile (· != '=')))

def step (text : List Char) (i : Nat) (c : Char) (d : Directive) :
    Stage → Option (Directive × Stage)
  | .beginning =>
      if c = '[' then some (d, .span (i + 1))
      else if beginsWord c then some (d, .word i)
      else none
  | .word start =>
      if c = '=' then some ({ d with target := some (cut text start i) }, .threshold (i + 1))
      else if c = '[' then some ({ d with target := some (cut text start i) }, .span (i + 1))
      else some (d, .word start)
  | .span start =>
      if c = ']' then some ({ d with span := some (cut text start i) }, .spanDone)
      else if c = '\x7b' then
        let name := cut text start i
        some ({ d with span := if name.isEmpty then none else some name }, .field (i + 1))
      else some (d, .span start)
  | .field start =>
      if c = '\x7d' then
        let field := cut text start i
        if field.isEmpty then none
        else some ({ d with fields := d.fields ++ [fieldOf field] }, .fieldsDone)
      else some (d, .field start)
  | .fieldsDone => if c = ']' then some (d, .spanDone) else none
  | .spanDone => if c = '=' then some (d, .threshold (i + 1)) else none
  | .threshold start => some (d, .threshold start)

def steps (text : List Char) : Nat → List Char → Directive × Stage → Option (Directive × Stage)
  | _, [], reached => some reached
  | i, c :: rest, (d, stage) => step text i c d stage >>= steps text (i + 1) rest

/-- A word alone is a level if it can be one, else a target; an empty level is the greatest. -/
def finish (text : List Char) (d : Directive) : Stage → Option Directive
  | .word start =>
      let word := text.drop start
      match Threshold.ofText? word with
      | some threshold => some { d with threshold, target := none }
      | none => some { d with target := some word }
  | .threshold start =>
      let level := text.drop start
      if level.isEmpty then some d
      else (Threshold.ofText? level).map fun threshold => { d with threshold }
  | .spanDone => some d
  | .beginning | .span _ | .field _ | .fieldsDone => none

/-- Blanks around a directive are passed over, but the places of its parts are counted from its
trimmed beginning. -/
def parse? (text : List Char) : Option Directive := do
  let (d, stage) ← steps text 0 (Text.trimStart (Text.trimEnd text)) ({}, .beginning)
  finish text d stage

/-- Directives about spans, or about values of fields, say nothing about a record. -/
def isAboutRecords (d : Directive) : Bool :=
  d.span.isNone && d.fields.all fun field => field.2.isNone

def fieldNames (d : Directive) : List String :=
  d.fields.map fun field => String.ofList field.1

def isAbout (d : Directive) (r : Record) : Bool :=
  d.isAboutRecords &&
    d.target.all (fun target => target.isPrefixOf r.source.target.toList) &&
    d.fieldNames.all fun name => name == "message" || (r.fields.map Prod.fst).contains name

/-- No target, then targets by length in octets, then by the number of fields. -/
def specificity (d : Directive) : Nat × Nat :=
  (d.target.elim 0 fun target => (String.ofList target).utf8ByteSize + 1, d.fields.length)

def lessSpecific (a b : Directive) : Bool :=
  let (m, k) := a.specificity
  let (n, l) := b.specificity
  m < n || (m == n && (k < l || (k == l && a.fieldNames < b.fieldNames)))

end Directive

abbrev Filter := List Directive

namespace Filter

/-- One directive that cannot be read spoils the filter; a filter without directives shows
nothing. -/
def parse? (text : String) : Option Filter :=
  ((Text.pieces ',' text.toList).filter fun piece => !piece.isEmpty).mapM Directive.parse?

def ofLevel (level : Level) : Filter :=
  [{ threshold := level.verbosity }]

/-- The most specific of the directives about a record, of equals the last one. -/
def deciding? (filter : Filter) (r : Record) : Option Directive :=
  filter.foldl
    (fun best d =>
      if d.isAbout r && !best.any (fun b => d.lessSpecific b) then some d else best)
    none

def shows (filter : Filter) (r : Record) : Bool :=
  (filter.deciding? r).any fun d => r.level.verbosity ≤ d.threshold

end Filter
end NamingLint.Log
