import RegexNfa.Regex.Basic

/-!
The grammar of expressions, left recursive, with the syntax tree of each derivation. Parentheses
leave no trace in the tree. Two dialects share it: the general one lets any other character stand
for itself and stars follow one another; the strict one is that of the expressions that compile.
-/

namespace RegexNfa.Expression

inductive Level where
  | alternation
  | sequence
  | item
  | atom
  deriving DecidableEq

structure Dialect where
  isSymbol : Char → Prop
  starred : Level

def Dialect.general : Dialect := ⟨fun c => c ≠ '(' ∧ c ≠ ')' ∧ c ≠ '*' ∧ c ≠ '|', .item⟩

def Dialect.strict : Dialect := ⟨fun c => 'a' ≤ c ∧ c ≤ 'z' ∨ '0' ≤ c ∧ c ≤ '9', .atom⟩

inductive Derives (d : Dialect) : Level → List Char → Regex → Prop
  | symbol {c : Char} : d.isSymbol c → Derives d .atom [c] (.symbol c)
  | group {s : List Char} {r : Regex} :
      Derives d .alternation s r → Derives d .atom ('(' :: (s ++ [')'])) r
  | atom {s : List Char} {r : Regex} : Derives d .atom s r → Derives d .item s r
  | star {s : List Char} {r : Regex} :
      Derives d d.starred s r → Derives d .item (s ++ ['*']) (.star r)
  | item {s : List Char} {r : Regex} : Derives d .item s r → Derives d .sequence s r
  | concat {s t : List Char} {q r : Regex} :
      Derives d .sequence s q → Derives d .item t r → Derives d .sequence (s ++ t) (.concat q r)
  | sequence {s : List Char} {r : Regex} :
      Derives d .sequence s r → Derives d .alternation s r
  | union {s t : List Char} {q r : Regex} :
      Derives d .alternation s q → Derives d .sequence t r →
        Derives d .alternation (s ++ '|' :: t) (.union q r)

def emptyGroups (depth : Nat) : List Char := List.replicate depth '(' ++ List.replicate depth ')'

end RegexNfa.Expression
