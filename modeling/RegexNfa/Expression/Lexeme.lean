import RegexNfa.Operator

namespace RegexNfa

inductive Lexeme where
  | operand (c : Char)
  | operator (o : Operator)
  | opening
  | closing
  deriving DecidableEq

namespace Lexeme

def ofChar (c : Char) : Lexeme :=
  if c = '(' then .opening
  else if c = ')' then .closing
  else if c = '*' then .operator .star
  else if c = '|' then .operator .union
  else .operand c

def juxtaposed (c d : Char) : Bool :=
  !(c == '(' || c == '|') && !(d == '*' || d == '|' || d == ')')

def ofChars : List Char → List Lexeme
  | [] => []
  | [c] => [ofChar c]
  | c :: d :: rest =>
    if juxtaposed c d then ofChar c :: .operator .concat :: ofChars (d :: rest)
    else ofChar c :: ofChars (d :: rest)

theorem ofChars_cons_cons (c d : Char) (rest : List Char) :
    ofChars (c :: d :: rest) =
      (if juxtaposed c d then [ofChar c, .operator .concat] else [ofChar c]) ++
        ofChars (d :: rest) := by
  by_cases h : juxtaposed c d <;> simp [ofChars, h]

end Lexeme

end RegexNfa
