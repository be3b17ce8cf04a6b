import NamingLint.Toml.Grammar

/-!
Error texts of TOML: a place, the line it is on with carets under it, and a message. A place past
the end is shown after the last character. Columns count characters, except that a place at a
character of several octets counts the octets before it on its line.
-/

namespace NamingLint.Toml

/-- The octets of a text that come before the octet at `index`, split into those up to the last line
feed and those after it. -/
def lineAt : Nat → List Char → Nat × List Char → Nat × List Char
  | 0, _, found => found
  | _, [], found => found
  | index, c :: rest, (line, before) =>
      lineAt (index - c.utf8Size) rest (if c == '\n' then (line + 1, []) else (line, before ++ [c]))

def charAt? : Nat → List Char → Option Char
  | _, [] => none
  | 0, c :: _ => some c
  | index, c :: rest => if c.utf8Size ≤ index then charAt? (index - c.utf8Size) rest else some c

/-- The line and column, from zero, of an octet of a text. -/
def place (text : List Char) (index : Nat) : Nat × Nat :=
  let length := Text.octets text
  if length = 0 then (0, index)
  else
    let last := length - (text.getLast?.elim 1 Char.utf8Size)
    let inside := min index (length - 1)
    let start := if index < length then index else last
    let (line, before) := lineAt start text (0, [])
    let wide := index < length && (charAt? index text).any fun c => c.utf8Size != 1
    let column := if wide then Text.octets before else before.length
    (line, column + (index - inside))

def splitLines (text : List Char) : List (List Char) :=
  text.foldr
    (fun c lines =>
      if c == '\n' then [] :: lines
      else match lines with
        | line :: rest => (c :: line) :: rest
        | [] => [[c]])
    [[]]

def spaces (n : Nat) : String := String.ofList (List.replicate n ' ')

/-- The range of a syntax error: the character at its place. -/
def charSpan (text : List Char) (offset : Nat) : Span :=
  ⟨offset, offset + (charAt? offset text).elim 0 Char.utf8Size⟩

def Complaint.message (c : Complaint) : String :=
  let label := c.label.toList.map fun what => "invalid " ++ what
  let expected := if c.expected.isEmpty then [] else ["expected " ++ ", ".intercalate c.expected]
  "\n".intercalate (label ++ expected ++ c.cause.toList.map Cause.message)

def excerpt (text : List Char) (span : Span) (message : String) : String :=
  let (line, column) := place text span.start
  let number := toString (line + 1)
  let content := (splitLines text)[line]?.getD []
  let carets := max 1 (min span.stop (span.start + Text.octets content) - span.start)
  let margin := spaces (number.length + 1) ++ "|"
  "TOML parse error at line " ++ number ++ ", column " ++ toString (column + 1) ++ "\n" ++
    margin ++ "\n" ++
    number ++ " | " ++ String.ofList content ++ "\n" ++
    margin ++ spaces (column + 1) ++ String.ofList (List.replicate carets '^') ++ "\n" ++
    message ++ "\n"

end NamingLint.Toml
