import RegexNfa.Expression.Valid
import RegexNfa.Search.Sweep

namespace RegexNfa

def build (tokens : List Token) : Except CompileError Fragment :=
  match Regex.ofPostfix tokens with
  | .ok r => .ok r.toFragment
  | .error e => .error e

def parse (expression : String) : Except CompileError Regex :=
  if Expression.isValid expression then Regex.ofPostfix (Postfix.ofExpression expression)
  else .error (.invalidExpression expression)

def compile (expression : String) : Except CompileError Automaton :=
  match parse expression with
  | .ok r => .ok (.ofFragment r.toFragment)
  | .error e => .error e

def isMatch (expression text : String) : Except CompileError Bool :=
  match compile expression with
  | .ok a => .ok (a.accepts text)
  | .error e => .error e

end RegexNfa
