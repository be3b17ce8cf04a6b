import NamingLint.Environment.Fault
import NamingLint.Text.Slice
import NamingLint.Text.Space
import NamingLint.Text.Utf8

/-!
The statements of a file of variables. A statement ends with its line unless a quote or an escape is
still open there, or the file ends after a blank. A number sign after a blank begins a comment.
-/

namespace NamingLint.Environment

/-- What is open at a place of a statement. -/
inductive Opening where
  | closed
  | escape
  | single
  | singleEscape
  | double
  | doubleEscape
  | blank
  | comment
  deriving Repr, DecidableEq

namespace Opening

def afterClosed (c : Char) : Opening :=
  if c = '\\' then escape
  else if c = '\x22' then double
  else if c = '\'' then single
  else closed

/-- A blank after a blank closes again, so only a single blank can begin a comment. -/
def next (c : Char) : Opening → Opening
  | closed =>
      if Text.isSpace c && c != '\n' && c != '\r' then blank else afterClosed c
  | blank => if c = '#' then comment else afterClosed c
  | escape => closed
  | single => if c = '\\' then singleEscape else if c = '\'' then closed else single
  | singleEscape => single
  | double => if c = '\\' then doubleEscape else if c = '\x22' then closed else double
  | doubleEscape => double
  | comment => comment

/-- What is open after a text, and the text without a comment that begins in it. -/
def scan : Opening → List Char → List Char × Opening
  | opening, [] => ([], opening)
  | opening, c :: rest =>
      match opening.next c with
      | comment => ([], comment)
      | opening =>
          let (kept, last) := scan opening rest
          (c :: kept, last)

end Opening

/-- Octets cut after every line feed. -/
def physicalLines : List UInt8 → List (List UInt8)
  | [] => []
  | octet :: rest =>
      if octet = 10 then [octet] :: physicalLines rest
      else match physicalLines rest with
        | line :: lines => (octet :: line) :: lines
        | [] => [[octet]]

def dropLineEnd (text : List Char) : List Char :=
  match text.reverse with
  | '\n' :: '\r' :: rest | '\n' :: rest => rest.reverse
  | _ => text

def isCommentLine (text : List Char) : Bool :=
  (Text.trimStart text).head? = some '#'

/-- The statements of lines, up to the first that cannot be read. `begun` is the text of the
statement that is open. -/
def statementsFrom : Opening → List Char → List (List UInt8) →
    List (Except LoadFault (List Char))
  | .closed, _, [] => []
  | _, begun, [] => [.error (.malformed begun (Text.octets begun))]
  | opening, begun, line :: rest =>
      match Text.Utf8.decode line with
      | .error _ => [.error .notUtf8]
      | .ok text =>
          if isCommentLine (begun ++ text) then .ok [] :: statementsFrom .closed [] rest
          else
            let (kept, last) := opening.scan text
            match last with
            | .closed => .ok (dropLineEnd (begun ++ text)) :: statementsFrom .closed [] rest
            | .comment => .ok (begun ++ kept) :: statementsFrom .closed [] rest
            | _ => statementsFrom last (begun ++ text) rest

/-- A byte order mark at the beginning is no part of the first statement. -/
def statements (octets : List UInt8) : List (Except LoadFault (List Char)) :=
  match octets with
  | 0xEF :: 0xBB :: 0xBF :: rest => statementsFrom .closed [] (physicalLines rest)
  | _ => statementsFrom .closed [] (physicalLines octets)

end NamingLint.Environment
