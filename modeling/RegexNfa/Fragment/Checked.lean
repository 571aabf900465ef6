import RegexNfa.Fragment

namespace RegexNfa

def sum? (m n : Nat) : Option Nat :=
  if m + n < Transition.stateLimit then some (m + n) else none

namespace Fragment

def stateCount? (f : Fragment) : Option Nat := sum? f.final 1

def concat? (a b : Fragment) : Option Fragment := do
  let _room ← sum? a.transitions.length b.transitions.length
  let copy ← b.shifted? a.final
  let final ← sum? a.final b.final
  return ⟨a.transitions ++ copy, final⟩

def union? (a b : Fragment) : Option Fragment := do
  let left ← a.stateCount?
  let right ← b.stateCount?
  let last ← sum? left right
  let final ← sum? last 1
  let copies ← sum? a.transitions.length b.transitions.length
  let _room ← sum? copies 4
  let copy ← a.shifted? 1
  let start ← sum? left 1
  let copy' ← b.shifted? start
  return ⟨.epsilon 0 1 :: copy ++ .epsilon left final :: .epsilon 0 start :: copy' ++
    [.epsilon last final], final⟩

def star? (a : Fragment) : Option Fragment := do
  let count ← a.stateCount?
  let final ← sum? count 1
  let _room ← sum? a.transitions.length 4
  let copy ← a.shifted? 1
  return ⟨.epsilon 0 1 :: copy ++ [.epsilon count final, .epsilon count 1, .epsilon 0 final], final⟩

end Fragment

def Regex.toFragment? : Regex → Option Fragment
  | .epsilon => some .epsilon
  | .symbol c => some (.literal c)
  | .concat r s => do Fragment.concat? (← r.toFragment?) (← s.toFragment?)
  | .union r s => do Fragment.union? (← r.toFragment?) (← s.toFragment?)
  | .star r => do Fragment.star? (← r.toFragment?)

end RegexNfa
