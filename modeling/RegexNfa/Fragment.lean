import RegexNfa.Regex.Basic
import RegexNfa.Transition

/-!
Pieces of automata and the rules that compose them. A fragment starts in state 0, numbers its states
densely and ends in its largest one. The order of its transitions is part of each rule, since the
search explores them in that order.
-/

namespace RegexNfa

structure Fragment where
  transitions : List Transition
  final : Nat
  deriving DecidableEq

namespace Fragment

def stateCount (f : Fragment) : Nat := f.final + 1

def shifted (f : Fragment) (offset : Nat) : List Transition :=
  f.transitions.map (·.shifted offset)

def shifted? (f : Fragment) (offset : Nat) : Option (List Transition) :=
  f.transitions.mapM (·.shifted? offset)

def literal (c : Char) : Fragment := ⟨[.symbol 0 c 1], 1⟩

def epsilon : Fragment := ⟨[.epsilon 0 1], 1⟩

def concat (a b : Fragment) : Fragment :=
  ⟨a.transitions ++ b.shifted a.final, a.final + b.final⟩

def union (a b : Fragment) : Fragment :=
  let final := a.stateCount + b.stateCount + 1
  ⟨.epsilon 0 1 :: a.shifted 1 ++
    .epsilon a.stateCount final :: .epsilon 0 (a.stateCount + 1) ::
      b.shifted (a.stateCount + 1) ++ [.epsilon (a.stateCount + b.stateCount) final], final⟩

def star (a : Fragment) : Fragment :=
  let final := a.stateCount + 1
  ⟨.epsilon 0 1 :: a.shifted 1 ++
    [.epsilon a.stateCount final, .epsilon a.stateCount 1, .epsilon 0 final], final⟩

end Fragment

def Regex.toFragment : Regex → Fragment
  | .epsilon => .epsilon
  | .symbol c => .literal c
  | .concat r s => .concat r.toFragment s.toFragment
  | .union r s => .union r.toFragment s.toFragment
  | .star r => .star r.toFragment

end RegexNfa
