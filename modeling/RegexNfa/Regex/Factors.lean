import RegexNfa.Regex.Basic

namespace RegexNfa

inductive Factor where
  | epsilon
  | symbol (c : Char)
  | union (left right : List Factor)
  | star (body : List Factor)

def Regex.factors : Regex → List Factor
  | .epsilon => [.epsilon]
  | .symbol c => [.symbol c]
  | .concat r s => r.factors ++ s.factors
  | .union r s => [.union r.factors s.factors]
  | .star r => [.star r.factors]

end RegexNfa
