import RegexNfa.Expression.Lexeme

/-!
Reverse polish form. Lexemes are read from left to right; operators and opening parentheses
wait on a pending stack until a weaker operator, a closing parenthesis or the end releases them.
Unbalanced parentheses are not refused: a `)` without its `(` releases all that is pending, and an
unmatched `(` is dropped at the end.
-/

namespace RegexNfa

inductive Token where
  | symbol (c : Char)
  | operator (o : Operator)
  deriving DecidableEq

def Token.mark : Token → Char
  | .symbol c => c
  | .operator o => o.mark

namespace Postfix

inductive Pending where
  | operator (o : Operator)
  | opening
  deriving DecidableEq

namespace Pending

def token? : Pending → Option Token
  | .operator o => some (.operator o)
  | .opening => none

def isOperator : Pending → Bool
  | .operator _ => true
  | .opening => false

/-- Whether a pending entry is released before `o` waits in turn: equal precedence groups to the
left. -/
def yieldsTo (o : Operator) : Pending → Bool
  | .operator p => o.precedence ≤ p.precedence
  | .opening => false

end Pending

def released (p : Pending → Bool) (pending : List Pending) : List Token :=
  (pending.takeWhile p).filterMap Pending.token?

def ofLexemes (pending : List Pending) : List Lexeme → List Token
  | [] => pending.filterMap Pending.token?
  | .operand c :: rest => .symbol c :: ofLexemes pending rest
  | .opening :: rest => ofLexemes (.opening :: pending) rest
  | .closing :: rest =>
    released Pending.isOperator pending ++
      ofLexemes (pending.dropWhile Pending.isOperator).tail rest
  | .operator o :: rest =>
    released (Pending.yieldsTo o) pending ++
      ofLexemes (.operator o :: pending.dropWhile (Pending.yieldsTo o)) rest

def ofChars (expression : List Char) : List Token := ofLexemes [] (Lexeme.ofChars expression)

def ofExpression (expression : String) : List Token := ofChars expression.toList

def text (tokens : List Token) : String := String.ofList (tokens.map Token.mark)

end Postfix

end RegexNfa
