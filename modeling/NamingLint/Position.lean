/-!
Lines and columns of a source text. Both count from one, columns in characters, and both are
32-bit words; a text long enough to exhaust them wraps.
-/

namespace NamingLint

structure Position where
  line : UInt32
  column : UInt32
  deriving Repr, DecidableEq

namespace Position

def origin : Position := ⟨1, 1⟩

def advance (p : Position) (c : Char) : Position :=
  if c = '\n' then ⟨p.line + 1, 1⟩ else ⟨p.line, p.column + 1⟩

/-- Passes the characters that begin before octet `limit`, the first of them at octet `index`. -/
def scan (limit : Nat) : Nat → Position → List Char → Position
  | _, p, [] => p
  | index, p, c :: rest =>
      if limit ≤ index then p else scan limit (index + c.utf8Size) (p.advance c) rest

/-- An offset inside a character counts as the one after it, an offset past the end as the end. -/
def ofOffset (source : List Char) (offset : UInt32) : Position :=
  scan offset.toNat 0 origin source

end Position
end NamingLint
