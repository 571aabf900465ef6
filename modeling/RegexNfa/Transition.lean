namespace RegexNfa

inductive Label where
  | epsilon
  | symbol (c : Char)
  deriving DecidableEq

namespace Label

def isEpsilon : Label → Bool
  | .epsilon => true
  | .symbol _ => false

def mark : Label → Char
  | .epsilon => 'ε'
  | .symbol c => c

end Label

structure Transition where
  source : Nat
  label : Label
  target : Nat
  deriving DecidableEq

namespace Transition

def epsilon (source target : Nat) : Transition := ⟨source, .epsilon, target⟩

def symbol (source : Nat) (c : Char) (target : Nat) : Transition := ⟨source, .symbol c, target⟩

def isEpsilon (t : Transition) : Bool := t.label.isEpsilon

theorem isEpsilon_iff (t : Transition) : t.isEpsilon = true ↔ t = epsilon t.source t.target := by
  obtain ⟨s, l, u⟩ := t
  cases l <;> simp [isEpsilon, Label.isEpsilon, epsilon]

def shifted (offset : Nat) (t : Transition) : Transition :=
  ⟨t.source + offset, t.label, t.target + offset⟩

def stateLimit : Nat := 0x10000000000000000

def shifted? (offset : Nat) (t : Transition) : Option Transition :=
  if t.source + offset < stateLimit ∧ t.target + offset < stateLimit then some (t.shifted offset)
  else none

end Transition

end RegexNfa
