namespace RegexNfa.Expression

def isOperand (c : Char) : Bool := c.isLower || c.isDigit

theorem isOperand_iff (c : Char) :
    isOperand c = true ↔ 'a' ≤ c ∧ c ≤ 'z' ∨ '0' ≤ c ∧ c ≤ '9' := by
  have hletter : c.isLower = (decide ('a' ≤ c) && decide (c ≤ 'z')) := rfl
  have hdigit : c.isDigit = (decide ('0' ≤ c) && decide (c ≤ '9')) := rfl
  simp [isOperand, hletter, hdigit]

def isAllowed (c : Char) : Bool :=
  isOperand c || c == '(' || c == ')' || c == '*' || c == '|'

def doubles (previous : Option Char) (c : Char) : Bool :=
  (c == '*' || c == '|') && previous == some c

def scan (previous : Option Char) (depth : Nat) : List Char → Bool
  | [] => depth == 0
  | c :: rest =>
    isAllowed c && !doubles previous c &&
      (if c = '(' then scan (some c) (depth + 1) rest
      else if c = ')' then depth != 0 && scan (some c) (depth - 1) rest
      else scan (some c) depth rest)

def isValid (expression : String) : Bool :=
  match expression.toList with
  | [] => false
  | first :: rest => (isOperand first || first == '(') && scan none 0 (first :: rest)

end RegexNfa.Expression
