import RegexNfa.Expression.Valid

namespace RegexNfa.Expression

structure WellFormed (e : List Char) : Prop where
  nonempty : e ≠ []
  alphabet : ∀ c ∈ e, isOperand c ∨ c = '(' ∨ c = ')' ∨ c = '*' ∨ c = '|'
  first : ∀ c, e.head? = some c → isOperand c ∨ c = '('
  no_double_star : ¬ ['*', '*'] <:+: e
  no_double_bar : ¬ ['|', '|'] <:+: e
  balance : ∀ read, read <+: e → read.count ')' ≤ read.count '('
  closed : e.count '(' = e.count ')'

end RegexNfa.Expression
