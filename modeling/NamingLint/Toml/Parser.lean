import NamingLint.Text.Slice
import NamingLint.Toml.Document

/-!
Parsers of TOML text. A failure says where reading stopped, what was being read, what would have
been accepted there, and why. A failure that is not fatal lets an alternative be tried from the
start; of several alternatives that fail the last one speaks.
-/

namespace NamingLint.Toml

structure Complaint where
  label : Option String := none
  expected : List String := []
  cause : Option Cause := none
  deriving Repr, DecidableEq

structure Cursor where
  rest : List Char
  offset : Nat
  deriving Repr, DecidableEq

inductive Reply (α : Type) where
  | done (value : α) (next : Cursor)
  | failed (fatal : Bool) (offset : Nat) (complaint : Complaint)

def Parser (α : Type) := Cursor → Reply α

namespace Parser

variable {α β : Type}

protected def pure (a : α) : Parser α := fun c => .done a c

protected def bind (p : Parser α) (f : α → Parser β) : Parser β := fun c =>
  match p c with
  | .done a c => f a c
  | .failed fatal offset complaint => .failed fatal offset complaint

instance : Monad Parser where
  pure := Parser.pure
  bind := Parser.bind

def fail (complaint : Complaint := {}) : Parser α := fun c => .failed false c.offset complaint

def offset : Parser Nat := fun c => .done c.offset c

def peek : Parser (Option Char) := fun c => .done c.rest.head? c

/-- A failure of the parser is final. -/
def must (p : Parser α) : Parser α := fun c =>
  match p c with
  | .failed _ offset complaint => .failed true offset complaint
  | reply => reply

/-- Names what is being read; a name given further in stays. -/
def labelled (name : String) (p : Parser α) : Parser α := fun c =>
  match p c with
  | .failed fatal offset complaint =>
      .failed fatal offset { complaint with label := complaint.label.or (some name) }
  | reply => reply

def expecting (what : List String) (p : Parser α) : Parser α := fun c =>
  match p c with
  | .failed fatal offset complaint =>
      .failed fatal offset { complaint with expected := complaint.expected ++ what }
  | reply => reply

def orElse (p q : Parser α) : Parser α := fun c =>
  match p c with
  | .failed false _ _ => q c
  | reply => reply

def optional (p : Parser α) : Parser (Option α) := fun c =>
  match p c with
  | .done a next => .done (some a) next
  | .failed false _ _ => .done none c
  | .failed true offset complaint => .failed true offset complaint

/-- Refuses a value at the place where the parser began. -/
def checked (p : Parser α) (f : α → Except Cause β) : Parser β := fun c =>
  match p c with
  | .done a next =>
      match f a with
      | .ok b => .done b next
      | .error cause => .failed false c.offset { cause := some cause }
  | .failed fatal offset complaint => .failed fatal offset complaint

def spanned (p : Parser α) : Parser (α × Span) := fun c =>
  match p c with
  | .done a next => .done (a, ⟨c.offset, next.offset⟩) next
  | .failed fatal offset complaint => .failed fatal offset complaint

def satisfy (p : Char → Bool) : Parser Char := fun c =>
  match c.rest with
  | x :: rest => if p x then .done x ⟨rest, c.offset + x.utf8Size⟩ else .failed false c.offset {}
  | [] => .failed false c.offset {}

def char (x : Char) : Parser Char := satisfy (· == x)

def takeWithin (p : Char → Bool) : Nat → List Char → List Char × List Char
  | n + 1, x :: rest =>
      if p x then
        let (taken, rest) := takeWithin p n rest
        (x :: taken, rest)
      else ([], x :: rest)
  | _, rest => ([], rest)

/-- As many characters of a class as there are, but no more than `most`. -/
def takeUpTo (most : Nat) (p : Char → Bool) : Parser (List Char) := fun c =>
  let (taken, rest) := takeWithin p most c.rest
  .done taken ⟨rest, c.offset + Text.octets taken⟩

def takeWhile (p : Char → Bool) : Parser (List Char) := fun c =>
  takeUpTo c.rest.length p c

def takeWhile1 (p : Char → Bool) : Parser (List Char) := fun c =>
  match takeWhile p c with
  | .done [] _ => .failed false c.offset {}
  | reply => reply

def exactly (n : Nat) (p : Char → Bool) : Parser (List Char) := fun c =>
  match takeUpTo n p c with
  | .done taken next => if taken.length = n then .done taken next else .failed false c.offset {}
  | reply => reply

def literal (text : String) : Parser (List Char) := fun c =>
  let expected := text.toList
  if expected.isPrefixOf c.rest then
    .done expected ⟨c.rest.drop expected.length, c.offset + Text.octets expected⟩
  else .failed false c.offset {}

/-- Applies without consuming. -/
def ahead (p : Parser α) : Parser α := fun c =>
  match p c with
  | .done a _ => .done a c
  | reply => reply

def atEnd : Parser Unit := fun c =>
  if c.rest.isEmpty then .done () c else .failed false c.offset {}

def manyWithin (p : Parser α) : Nat → List α → Parser (List α)
  | 0, read => fun c => .done read.reverse c
  | n + 1, read => fun c =>
      match p c with
      | .done a next =>
          if next.offset = c.offset then .done read.reverse c else manyWithin p n (a :: read) next
      | .failed false _ _ => .done read.reverse c
      | .failed true offset complaint => .failed true offset complaint

def many (p : Parser α) : Parser (List α) := fun c => manyWithin p (c.rest.length + 1) [] c

/-- At least one, with separators between; a separator that nothing follows is left. -/
def separated (p : Parser α) (separator : Parser β) : Parser (List α) := do
  let first ← p
  let rest ← many do let _ ← separator; p
  Parser.pure (first :: rest)

end Parser
end NamingLint.Toml
