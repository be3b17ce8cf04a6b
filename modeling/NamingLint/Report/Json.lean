/-!
JSON texts, laid out with one member or element to a line and two blanks to a level. Controls are
escaped, by a letter where there is one and else by `\u00` and two lower-case digits; all other
characters stand for themselves.
-/

namespace NamingLint.Json

inductive Value where
  | bool (b : Bool)
  | number (n : Nat)
  | text (s : String)
  | array (elements : List Value)
  | object (members : List (String × Value))

def hexDigit (n : Nat) : Char :=
  if n < 10 then Char.ofNat ('0'.toNat + n) else Char.ofNat ('a'.toNat + (n - 10))

def escape (c : Char) : List Char :=
  match c with
  | '"' => ['\\', '"']
  | '\\' => ['\\', '\\']
  | '\x08' => ['\\', 'b']
  | '\t' => ['\\', 't']
  | '\n' => ['\\', 'n']
  | '\x0c' => ['\\', 'f']
  | '\r' => ['\\', 'r']
  | _ =>
      if c.toNat < 0x20 then
        ['\\', 'u', '0', '0', hexDigit (c.toNat / 16), hexDigit (c.toNat % 16)]
      else [c]

def textLiteral (s : String) : List Char :=
  '"' :: s.toList.flatMap escape ++ ['"']

def newline (level : Nat) : List Char :=
  '\n' :: List.replicate (2 * level) ' '

mutual

/-- The layout of a value whose opening bracket stands at the given level. -/
def Value.layout (level : Nat) : Value → List Char
  | .bool true => "true".toList
  | .bool false => "false".toList
  | .number n => Nat.toDigits 10 n
  | .text s => textLiteral s
  | .array [] => "[]".toList
  | .array (v :: rest) =>
      '[' :: newline (level + 1) ++ v.layout (level + 1) ++ layoutElements (level + 1) rest ++
        newline level ++ [']']
  | .object [] => ['\x7b', '\x7d']
  | .object ((name, v) :: rest) =>
      '\x7b' :: newline (level + 1) ++ textLiteral name ++ ": ".toList ++ v.layout (level + 1) ++
        layoutMembers (level + 1) rest ++ newline level ++ ['\x7d']

def layoutElements (level : Nat) : List Value → List Char
  | [] => []
  | v :: rest => ',' :: newline level ++ v.layout level ++ layoutElements level rest

def layoutMembers (level : Nat) : List (String × Value) → List Char
  | [] => []
  | (name, v) :: rest =>
      ',' :: newline level ++ textLiteral name ++ ": ".toList ++ v.layout level ++
        layoutMembers level rest

end

def Value.render (v : Value) : String :=
  String.ofList (v.layout 0)

end NamingLint.Json
