import RegexNfa.CompileError
import RegexNfa.Postfix

namespace RegexNfa

inductive Regex where
  | epsilon
  | symbol (c : Char)
  | concat (r s : Regex)
  | union (r s : Regex)
  | star (r : Regex)
  deriving DecidableEq

namespace Regex

def push? : Token → List Regex → Option (List Regex)
  | .symbol c, stack => some (.symbol c :: stack)
  | .operator .star, r :: stack => some (.star r :: stack)
  | .operator .concat, s :: r :: stack => some (.concat r s :: stack)
  | .operator .union, s :: r :: stack => some (.union r s :: stack)
  | .operator _, _ => none

def evaluate (stack : List Regex) (position : Nat) : List Token → Except CompileError (List Regex)
  | [] => .ok stack
  | .symbol c :: rest => evaluate (.symbol c :: stack) (position + 1) rest
  | .operator o :: rest =>
    match push? (.operator o) stack with
    | some stack => evaluate stack (position + 1) rest
    | none => .error (.missingOperand o position)

def ofPostfix (tokens : List Token) : Except CompileError Regex :=
  match evaluate [] 0 tokens with
  | .error e => .error e
  | .ok [] => .ok .epsilon
  | .ok [r] => .ok r
  | .ok stack => .error (.unconsumedFragments stack.length)

def postorder : Regex → List Token
  | .epsilon => []
  | .symbol c => [.symbol c]
  | .concat r s => r.postorder ++ s.postorder ++ [.operator .concat]
  | .union r s => r.postorder ++ s.postorder ++ [.operator .union]
  | .star r => r.postorder ++ [.operator .star]

end Regex

end RegexNfa
