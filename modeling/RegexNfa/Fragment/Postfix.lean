import RegexNfa.CompileError
import RegexNfa.Fragment
import RegexNfa.Postfix

namespace RegexNfa.Fragment

def push? : Token → List Fragment → Option (List Fragment)
  | .symbol c, stack => some (.literal c :: stack)
  | .operator .star, a :: stack => some (.star a :: stack)
  | .operator .concat, b :: a :: stack => some (.concat a b :: stack)
  | .operator .union, b :: a :: stack => some (.union a b :: stack)
  | .operator _, _ => none

def compose (stack : List Fragment) (position : Nat) :
    List Token → Except CompileError (List Fragment)
  | [] => .ok stack
  | .symbol c :: rest => compose (.literal c :: stack) (position + 1) rest
  | .operator o :: rest =>
    match push? (.operator o) stack with
    | some stack => compose stack (position + 1) rest
    | none => .error (.missingOperand o position)

def ofPostfix (tokens : List Token) : Except CompileError Fragment :=
  match compose [] 0 tokens with
  | .error e => .error e
  | .ok [] => .ok .epsilon
  | .ok [f] => .ok f
  | .ok stack => .error (.unconsumedFragments stack.length)

end RegexNfa.Fragment
