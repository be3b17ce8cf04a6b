import NamingLint.Environment
import NamingLint.Environment.Fault
import NamingLint.Text.Alphanumeric
import NamingLint.Text.Slice
import NamingLint.Text.Space

/-!
Assignments `NAME=value`, with `export` before the name or without. A value may be quoted in parts;
outside single quotes a backslash escapes and a dollar sign stands for the value of a variable,
which is empty if it is not set. After a blank only a comment may follow.
-/

namespace NamingLint.Environment

/-- How a variable's name is being read: not at all, after a dollar sign, or between braces. -/
inductive Substitution where
  | none
  | bare (name : List Char)
  | braced (name : List Char)
  deriving Repr, DecidableEq

/-- A value being read; `written` is the value so far, `ended` is set when only blanks and a comment
may follow. -/
structure ValueReading where
  single : Bool := false
  double : Bool := false
  escaped : Bool := false
  ended : Bool := false
  substitution : Substitution := .none
  written : List Char := []
  deriving Repr, DecidableEq

namespace ValueReading

def write (v : ValueReading) (c : Char) : ValueReading :=
  { v with written := v.written ++ [c] }

def substitute (environment : Environment) (name : List Char) (v : ValueReading) : ValueReading :=
  { v with
    written := v.written ++ ((environment.get? (String.ofList name)).getD "").toList
    substitution := .none }

def escape (v : ValueReading) (c : Char) : Option ValueReading :=
  let v := { v with escaped := false }
  if ['\\', '\'', '\x22', '$', ' '].contains c then some (v.write c)
  else if c = 'n' then some (v.write '\n')
  else none

/-- A character that ends a name after a dollar sign is written as it is, even a quote. -/
def bareStep (environment : Environment) (name : List Char) (v : ValueReading) (c : Char) :
    ValueReading :=
  if Text.isAlphanumeric c then { v with substitution := .bare (name ++ [c]) }
  else if c = '\x7b' && name.isEmpty then { v with substitution := .braced [] }
  else
    let v := v.substitute environment name
    if c = '$' then { v with substitution := .bare [] } else v.write c

def bracedStep (environment : Environment) (name : List Char) (v : ValueReading) (c : Char) :
    ValueReading :=
  if c = '\x7d' then v.substitute environment name
  else { v with substitution := .braced (name ++ [c]) }

def plainStep (v : ValueReading) (c : Char) : ValueReading :=
  if c = '$' then { v with substitution := .bare [] }
  else if c = '\\' then { v with escaped := true }
  else if c = '\x22' then { v with double := !v.double }
  else if v.double then v.write c
  else if c = '\'' then { v with single := true }
  else if c = ' ' || c = '\t' then { v with ended := true }
  else v.write c

def step (environment : Environment) (v : ValueReading) (c : Char) : Option ValueReading :=
  if v.escaped then v.escape c
  else if v.single then some (if c = '\'' then { v with single := false } else v.write c)
  else match v.substitution with
    | .bare name => some (v.bareStep environment name c)
    | .braced name => some (v.bracedStep environment name c)
    | .none => some (v.plainStep c)

/-- The end of a value. A quote or a brace must not be open. -/
def finish (environment : Environment) (v : ValueReading) : Option (List Char) :=
  match v.substitution with
  | .braced _ => none
  | .bare name => if v.single || v.double then none else some (v.substitute environment name).written
  | .none => if v.single || v.double then none else some v.written

end ValueReading

def readValue (environment : Environment) (text : List Char) :
    Nat → ValueReading → List Char → Except LoadFault (List Char)
  | _, v, [] =>
      match v.finish environment with
      | some value => .ok value
      | none => .error (.malformed text (Text.octets text - 1))
  | i, v, c :: rest =>
      if v.ended then
        if c = ' ' || c = '\t' then readValue environment text (i + 1) v rest
        else if c = '#' then readValue environment text (i + 1) v []
        else .error (.malformed text i)
      else match v.step environment c with
        | some v => readValue environment text (i + 1) v rest
        | none => .error (.malformed text i)

def valueOf (environment : Environment) (text : List Char) : Except LoadFault (List Char) :=
  readValue environment text 0 {} text

def beginsName (c : Char) : Bool :=
  c.isAlpha || c == '_'

def continuesName (c : Char) : Bool :=
  c.isAlphanum || c == '_' || c == '.'

def isBlankOrComment (text : List Char) : Bool :=
  text.isEmpty || text.head? == some '#'

/-- A fault of a statement lies where reading stopped, counted in octets. -/
def faultAt (statement rest : List Char) : LoadFault :=
  .malformed statement (Text.octets (Text.trimEnd statement) - Text.octets rest)

def readName (statement rest : List Char) : Except LoadFault (List Char × List Char) :=
  if rest.head?.any beginsName then
    .ok (rest.takeWhile continuesName, Text.trimStart (rest.dropWhile continuesName))
  else .error (faultAt statement rest)

def readEquals (statement rest : List Char) : Except LoadFault (List Char) :=
  match rest with
  | '=' :: rest => .ok (Text.trimStart rest)
  | _ => .error (faultAt statement rest)

/-- The name and what stands after the equals sign; `export` may stand before the name. -/
def readTarget (statement rest : List Char) : Except LoadFault (List Char × List Char) := do
  let (name, rest) ← readName statement rest
  if name = "export".toList && rest.head? != some '=' then
    let (name, rest) ← readName statement rest
    return (name, ← readEquals statement rest)
  else return (name, ← readEquals statement rest)

/-- The name and the value that a statement assigns; a blank one and a comment assign nothing. -/
def readAssignment (environment : Environment) (statement : List Char) :
    Except LoadFault (Option (String × String)) := do
  let rest := Text.trimStart (Text.trimEnd statement)
  if isBlankOrComment rest then return none
  let (name, rest) ← readTarget statement rest
  if isBlankOrComment rest then return some (String.ofList name, "")
  return some (String.ofList name, String.ofList (← valueOf environment rest))

end NamingLint.Environment
