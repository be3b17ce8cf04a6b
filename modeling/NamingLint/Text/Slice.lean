/-!
Texts measured in UTF-8 octets. Offsets count octets, so a cut is defined only where a character
begins; a slice whose ends are not such places, or are out of order, is empty.
-/

namespace NamingLint.Text

def octets (text : List Char) : Nat :=
  text.foldr (fun c n => c.utf8Size + n) 0

/-- The text from octet `n` on, if a character begins there or the text ends there. -/
def dropOctets : Nat → List Char → Option (List Char)
  | 0, text => some text
  | _ + 1, [] => none
  | n + 1, c :: rest => if c.utf8Size ≤ n + 1 then dropOctets (n + 1 - c.utf8Size) rest else none

/-- The first `n` octets of the text, if a character ends there. -/
def takeOctets : Nat → List Char → Option (List Char)
  | 0, _ => some []
  | _ + 1, [] => none
  | n + 1, c :: rest =>
      if c.utf8Size ≤ n + 1 then (takeOctets (n + 1 - c.utf8Size) rest).map (c :: ·) else none

def slice? (text : List Char) (start stop : Nat) : Option (List Char) :=
  if start ≤ stop then dropOctets start text >>= takeOctets (stop - start) else none

def slice (text : List Char) (start stop : Nat) : List Char :=
  (slice? text start stop).getD []

end NamingLint.Text
