import RegexNfa.Fragment

namespace RegexNfa

def largestState (transitions : List Transition) (final : Nat) : Nat :=
  transitions.foldl (fun s t => max s (max t.source t.target)) final

def indexed (transitions : List Transition) (final : Nat) : Array (List Transition) :=
  transitions.foldr (fun t index => index.modify t.source (t :: ·))
    (Array.replicate (largestState transitions final + 1) [])

structure Automaton where
  transitions : List Transition
  final : Nat
  index : Array (List Transition)
  index_eq : index = indexed transitions final
  deriving DecidableEq

namespace Automaton

def ofTransitions (transitions : List Transition) (final : Nat) : Automaton :=
  ⟨transitions, final, indexed transitions final, rfl⟩

def ofFragment (f : Fragment) : Automaton := ofTransitions f.transitions f.final

def stateCount (a : Automaton) : Nat := a.index.size

def outgoing (a : Automaton) (state : Nat) : List Transition := a.index.getD state []

def epsilons (a : Automaton) : List Transition := a.transitions.filter (·.isEpsilon)

/-- The most states that an index can hold: an entry takes 24 bytes, and a block of memory fewer
than `2 ^ 63`. -/
def indexLimit : Nat := 0x7fffffffffffffff / 24

def ofTransitions? (transitions : List Transition) (final : Nat) : Option Automaton :=
  if largestState transitions final < indexLimit then some (ofTransitions transitions final)
  else none

theorem eq_iff (a b : Automaton) : a = b ↔ a.transitions = b.transitions ∧ a.final = b.final := by
  obtain ⟨ts, f, i, hi⟩ := a
  obtain ⟨us, g, j, hj⟩ := b
  subst hi hj
  constructor
  · intro h
    cases h
    exact ⟨rfl, rfl⟩
  · rintro ⟨h, h'⟩
    cases h
    cases h'
    rfl

end Automaton

end RegexNfa
