/-!
UTF-8 text as octets. `decode` reads a whole octet list or says where and how it first goes
wrong: a sequence that cannot be continued has a length, one that is cut off by the end has none.
Overlong forms, surrogates and scalars beyond U+10FFFF are excluded by the range of the second
octet, so no check on the decoded number is needed. `decodeLossy` reads on after what goes wrong
and puts a replacement character for it, one for the octets of a sequence that could not be
continued and one for an octet that opens none.
-/

namespace NamingLint.Text.Utf8

inductive Failure where
  | invalid (length index : Nat)
  | incomplete (index : Nat)
  deriving Repr, DecidableEq

def Failure.message : Failure → String
  | .invalid length index =>
      "invalid utf-8 sequence of " ++ toString length ++ " bytes from index " ++ toString index
  | .incomplete index => "incomplete utf-8 byte sequence from index " ++ toString index

/-- A multi-octet sequence being read: how many octets were taken and are missing, and the range
in which the next one must lie. -/
structure Sequence where
  start : Nat
  taken : Nat
  missing : Nat
  least : UInt8
  greatest : UInt8
  scalar : Nat
  deriving Repr, DecidableEq

/-- The sequence that an octet above 0x7F opens. -/
def Sequence.open? (index : Nat) (octet : UInt8) : Option Sequence :=
  let sequence (missing base : Nat) (least greatest : UInt8) : Option Sequence :=
    some { start := index, taken := 1, missing, least, greatest, scalar := octet.toNat - base }
  if octet < 0xC2 then none
  else if octet < 0xE0 then sequence 1 0xC0 0x80 0xBF
  else if octet = 0xE0 then sequence 2 0xE0 0xA0 0xBF
  else if octet = 0xED then sequence 2 0xE0 0x80 0x9F
  else if octet < 0xF0 then sequence 2 0xE0 0x80 0xBF
  else if octet = 0xF0 then sequence 3 0xF0 0x90 0xBF
  else if octet < 0xF4 then sequence 3 0xF0 0x80 0xBF
  else if octet = 0xF4 then sequence 3 0xF0 0x80 0x8F
  else none

def Sequence.accepts (s : Sequence) (octet : UInt8) : Bool :=
  s.least ≤ octet && octet ≤ s.greatest

def Sequence.push (s : Sequence) (octet : UInt8) : Sequence :=
  { s with
    taken := s.taken + 1
    missing := s.missing - 1
    least := 0x80
    greatest := 0xBF
    scalar := s.scalar * 64 + (octet.toNat - 0x80) }

def scan : List UInt8 → Nat → Option Sequence → List Char → Except Failure (List Char)
  | [], _, none, read => .ok read.reverse
  | [], _, some s, _ => .error (.incomplete s.start)
  | octet :: rest, index, none, read =>
      if octet < 0x80 then scan rest (index + 1) none (Char.ofNat octet.toNat :: read)
      else match Sequence.open? index octet with
        | none => .error (.invalid 1 index)
        | some s => scan rest (index + 1) (some s) read
  | octet :: rest, index, some s, read =>
      if s.accepts octet then
        let s := s.push octet
        if s.missing = 0 then scan rest (index + 1) none (Char.ofNat s.scalar :: read)
        else scan rest (index + 1) (some s) read
      else .error (.invalid s.taken s.start)

def decode (octets : List UInt8) : Except Failure (List Char) :=
  scan octets 0 none []

def replacement : Char := '\uFFFD'

/-- What an octet gives where no sequence is open, and the sequence that it opens. -/
def begin (octet : UInt8) : List Char × Option Sequence :=
  if octet < 0x80 then ([Char.ofNat octet.toNat], none)
  else match Sequence.open? 0 octet with
    | none => ([replacement], none)
    | some s => ([], some s)

/-- An octet that does not continue the sequence is read again as the beginning of something. -/
def Sequence.resume (s : Sequence) (octet : UInt8) : List Char × Option Sequence :=
  if s.accepts octet then
    let s := s.push octet
    if s.missing = 0 then ([Char.ofNat s.scalar], none) else ([], some s)
  else
    let (text, next) := begin octet
    (replacement :: text, next)

def readLossy : Option Sequence → List UInt8 → List Char
  | none, [] => []
  | some _, [] => [replacement]
  | none, octet :: rest =>
      let (text, next) := begin octet
      text ++ readLossy next rest
  | some s, octet :: rest =>
      let (text, next) := s.resume octet
      text ++ readLossy next rest

def decodeLossy (octets : List UInt8) : List Char :=
  readLossy none octets

end NamingLint.Text.Utf8
