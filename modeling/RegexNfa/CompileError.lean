import RegexNfa.Operator

namespace RegexNfa

inductive CompileError where
  | invalidExpression (expression : String)
  /-- An operator, at this index of the postfix sequence, found fewer operands than it takes. -/
  | missingOperand (operator : Operator) (position : Nat)
  | unconsumedFragments (count : Nat)
  deriving DecidableEq

def CompileError.message : CompileError → String
  | .invalidExpression expression => "invalid expression: `" ++ expression ++ "`"
  | .missingOperand operator position =>
    "operator `" ++ operator.mark.toString ++ "` at postfix position " ++ position.repr ++
      " is missing an operand"
  | .unconsumedFragments count =>
    "postfix sequence left " ++ count.repr ++ " unconnected fragments"

end RegexNfa
