namespace RegexNfa

inductive Operator where
  | concat
  | union
  | star
  deriving DecidableEq

namespace Operator

def precedence : Operator → Nat
  | .union => 0
  | .concat => 1
  | .star => 2

def mark : Operator → Char
  | .concat => '.'
  | .union => '|'
  | .star => '*'

end Operator

end RegexNfa
