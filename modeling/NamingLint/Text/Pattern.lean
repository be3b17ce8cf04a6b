/-!
Regular patterns over characters, matched against a whole text. The matcher takes the derivative of
the pattern by one character after the other; the constructors `seq'`, `alt'` drop dead branches so
that derivatives stay small.
-/

namespace NamingLint.Text

inductive Pattern where
  | never
  | blank
  | one (accepts : Char → Bool)
  | seq (first second : Pattern)
  | alt (left right : Pattern)
  | star (body : Pattern)

namespace Pattern

def nullable : Pattern → Bool
  | never | one _ => false
  | blank | star _ => true
  | seq p q => p.nullable && q.nullable
  | alt p q => p.nullable || q.nullable

def seq' : Pattern → Pattern → Pattern
  | never, _ => never
  | blank, q => q
  | p, q => seq p q

def alt' : Pattern → Pattern → Pattern
  | never, q => q
  | p, never => p
  | p, q => alt p q

def derive (c : Char) : Pattern → Pattern
  | never | blank => never
  | one accepts => if accepts c then blank else never
  | seq p q => if p.nullable then alt' (seq' (p.derive c) q) (q.derive c) else seq' (p.derive c) q
  | alt p q => alt' (p.derive c) (q.derive c)
  | star p => seq' (p.derive c) (star p)

def accepts : Pattern → List Char → Bool
  | p, [] => p.nullable
  | p, c :: rest => (p.derive c).accepts rest

def char (c : Char) : Pattern :=
  one (· == c)

end Pattern
end NamingLint.Text
