import NamingLint.Kotlin.Concrete
import NamingLint.Kotlin.Lexis

/-!
Parsers of Kotlin text that leave concrete nodes behind. The nodes of the frame at work are kept
last first; `reduce` makes one node of them. Blanks and comments after a token belong to that
token's frame, so a comment at the end of a frame is handed to the frame around it.

A parser that does not apply says `mismatch` and another may be tried from the same state. A
bracket that is open when the text ends is `unclosed`, and no other reading is tried then.
-/

namespace NamingLint.Kotlin

structure State where
  rest : List Char
  offset : Nat
  /-- Whether a line ended between the last token and the rest. -/
  broke : Bool
  /-- Whether the end of a line can end a statement here. -/
  breaks : Bool
  /-- Whether a lambda may follow an expression here. -/
  lambdas : Bool
  /-- The length of the whole text, which bounds every repetition. -/
  size : Nat
  nodes : List Concrete

inductive Outcome (α : Type) where
  | done (value : α) (state : State)
  | mismatch
  | unclosed (state : State)

def Parser (α : Type) := State → Outcome α

namespace Parser

variable {α β : Type}

@[inline]
protected def pure (a : α) : Parser α := fun s => .done a s

@[inline]
protected def bind (p : Parser α) (f : α → Parser β) : Parser β := fun s =>
  match p s with
  | .done a s => f a s
  | .mismatch => .mismatch
  | .unclosed s => .unclosed s

instance : Monad Parser where
  pure := Parser.pure
  bind := Parser.bind

def mismatch : Parser α := fun _ => .mismatch

def guard (b : Bool) : Parser Unit := if b then Parser.pure () else mismatch

def look (f : State → α) : Parser α := fun s => .done (f s) s

@[inline]
def orElse (p q : Parser α) : Parser α := fun s =>
  match p s with
  | .mismatch => q s
  | outcome => outcome

def choice : List (Parser α) → Parser α
  | [] => mismatch
  | p :: rest => orElse p (choice rest)

/-- Whether the parser applied; if not, nothing is consumed. -/
def attempt (p : Parser Unit) : Parser Bool :=
  orElse (do p; pure true) (pure false)

def optional (p : Parser Unit) : Parser Unit :=
  orElse p (pure ())

/-- Whether the parser would apply here. -/
def applies (p : Parser Unit) : Parser Bool := fun s =>
  match p s with
  | .done _ _ => .done true s
  | .mismatch | .unclosed _ => .done false s

def manyWithin (p : Parser Unit) : Nat → Parser Unit
  | 0 => pure ()
  | n + 1 => fun s =>
      match p s with
      | .done _ next => if next.offset = s.offset then .done () s else manyWithin p n next
      | .mismatch => .done () s
      | .unclosed s => .unclosed s

/-- Repeats the parser until it no longer applies or consumes nothing. -/
def many (p : Parser Unit) : Parser Unit := fun s => manyWithin p (s.size + 1) s

/-- Runs the parser on an empty frame and adds the nodes it leaves to the frame at work. -/
def frame (p : Parser α) : Parser α := fun s =>
  match p { s with nodes := [] } with
  | .done a next => .done a { next with nodes := next.nodes ++ s.nodes }
  | .mismatch => .mismatch
  | .unclosed last => .unclosed { last with nodes := last.nodes ++ s.nodes }

/-- Runs the parser with the two flags set, and restores them. -/
def within (breaks lambdas : Bool) (p : Parser α) : Parser α := fun s =>
  match p { s with breaks, lambdas } with
  | .done a next => .done a { next with breaks := s.breaks, lambdas := s.lambdas }
  | .mismatch => .mismatch
  | .unclosed last => .unclosed last

def isComment (c : Concrete) : Bool := c.head.extra && !c.head.isError

/-- Makes one node of the frame, without the comments after its last token. -/
def reduceAs (kind : String) (role : Role) (extra : Bool) : Parser Unit := fun s =>
  match s.nodes.span isComment with
  | (_, []) => .done () s
  | (comments, last :: before) =>
      let children := before.reverse ++ [last]
      let start := (children.headD last).head.start
      let head : Head := { kind, named := true, extra, role, start, stop := last.head.stop }
      .done () { s with nodes := comments ++ [.node head children] }

def reduce (kind : String) : Parser Unit := reduceAs kind .plain false

def node (kind : String) (p : Parser Unit) : Parser Unit :=
  frame do p; reduce kind

/-- Takes a number of characters as a leaf. -/
def leaf (head : Nat → Nat → Head) (length : Nat) : Parser Unit := fun s =>
  let stop := s.offset + Text.octets (s.rest.take length)
  .done () { s with
    rest := s.rest.drop length
    offset := stop
    nodes := .node (head s.offset stop) [] :: s.nodes }

def skip (length : Nat) : Parser Unit := fun s =>
  .done () { s with
    rest := s.rest.drop length
    offset := s.offset + Text.octets (s.rest.take length) }

def named (kind : String) (role : Role := .plain) (start stop : Nat) : Head :=
  { kind, named := true, role, start, stop }

def anonymous (kind : String) (start stop : Nat) : Head :=
  { kind, named := false, start, stop }

def comment (kind : String) (start stop : Nat) : Head :=
  { kind, named := true, extra := true, start, stop }

/-- One blank or comment, if there is one. -/
def triviaItem : Parser Unit := do
  let text ← look State.rest
  match text with
  | [] => mismatch
  | c :: _ =>
      if Lexis.isBlank c then
        skip 1
        if c == '\n' then fun s => .done () { s with broke := true } else pure ()
      else match Lexis.lineComment text, Lexis.blockComment text with
        | 0, 0 => mismatch
        | 0, n => leaf (comment "block_comment") n
        | n, _ => leaf (comment "line_comment") n

def trivia : Parser Unit := do
  (fun s => .done () { s with broke := false } : Parser Unit)
  many triviaItem

def token (head : Nat → Nat → Head) (length : Nat) : Parser Unit := do
  leaf head length
  trivia

def startsWith (text : String) : Parser Bool :=
  look fun s => text.toList.isPrefixOf s.rest

/-- A sign made of the given characters, whatever follows. -/
def sign (text : String) : Parser Unit := do
  guard (← startsWith text)
  token (anonymous text) text.length

/-- A bracket that has to come; `unclosed` if the text ends instead. -/
def closing (text : String) : Parser Unit := fun s =>
  if s.rest.isEmpty then .unclosed s else sign text s

def nextChar : Parser (Option Char) := look fun s => s.rest.head?

def nextIs (p : Char → Bool) : Parser Bool := look fun s => s.rest.head?.any p

def nextWord : Parser String := look fun s => String.ofList (Lexis.word s.rest)

def atEnd : Parser Bool := look fun s => s.rest.isEmpty

def keyword (text : String) : Parser Unit := do
  guard ((← nextWord) == text)
  token (anonymous text) text.length

def wordIn (words : List String) : Parser Bool := do
  let w ← nextWord
  pure (words.contains w)

def identifier (role : Role := .plain) : Parser Unit := do
  let length ← look fun s => Lexis.identifier s.rest
  guard (length != 0)
  token (named "identifier" role) length

/-- Items with commas between them and perhaps one after the last. -/
def commaList (item : Parser Unit) : Parser Unit := do
  if ← attempt item then
    many do sign ","; item
    optional (sign ",")
  else pure ()

/-- Items with commas between them, at least one. -/
def commaList1 (item : Parser Unit) : Parser Unit := do
  item
  many do sign ","; item

end Parser
end NamingLint.Kotlin
