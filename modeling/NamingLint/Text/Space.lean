import NamingLint.Text.Interval

/-!
White space in the sense of Unicode's `White_Space` property.
-/

namespace NamingLint.Text

def whiteSpace : Intervals :=
  [(0x9, 0xD), (0x20, 0x20), (0x85, 0x85), (0xA0, 0xA0), (0x1680, 0x1680), (0x2000, 0x200A),
   (0x2028, 0x2029), (0x202F, 0x202F), (0x205F, 0x205F), (0x3000, 0x3000)]

def isSpace (c : Char) : Bool :=
  whiteSpace.contains c

def trimStart (text : List Char) : List Char :=
  text.dropWhile isSpace

def trimEnd (text : List Char) : List Char :=
  (text.reverse.dropWhile isSpace).reverse

def removeSpace (text : List Char) : List Char :=
  text.filter fun c => !isSpace c

end NamingLint.Text
