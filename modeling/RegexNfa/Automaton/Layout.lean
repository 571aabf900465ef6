import RegexNfa.Automaton.Basic
import RegexNfa.Fragment.Checked

/-!
An automaton as it lies in memory. The index lists for each state the positions, in the table, of
the transitions that leave it, and it is filled in one pass over the table. To look up a state that
has no entry, or a position beyond the table, is a fault, and so is a number of states that is no
word.
-/

namespace RegexNfa

inductive Fault where
  | overflow
  | outOfRange
  deriving DecidableEq

structure Layout where
  transitions : List Transition
  final : Nat
  index : Array (Array Nat)
  deriving DecidableEq

namespace Layout

def record (index : Array (Array Nat)) (state position : Nat) :
    Except Fault (Array (Array Nat)) :=
  if state < index.size then .ok (index.modify state (·.push position)) else .error .outOfRange

def fill (index : Array (Array Nat)) (position : Nat) (table : List Transition) :
    Except Fault (Array (Array Nat)) :=
  (table.zipIdx position).foldlM (fun index filed => record index filed.1.source filed.2) index

def ofTransitions (transitions : List Transition) (final : Nat) : Except Fault Layout :=
  match sum? (largestState transitions final) 1 with
  | none => .error .overflow
  | some states =>
    match fill (Array.replicate states #[]) 0 transitions with
    | .ok index => .ok ⟨transitions, final, index⟩
    | .error e => .error e

def stateCount (l : Layout) : Nat := l.index.size

def entry (index : Array (Array Nat)) (state : Nat) : List Nat := (index.getD state #[]).toList

def lookUp (table : List Transition) (position : Nat) : Except Fault Transition :=
  match table[position]? with
  | some t => .ok t
  | none => .error .outOfRange

def outgoing (l : Layout) (state : Nat) : Except Fault (List Transition) :=
  (entry l.index state).mapM (lookUp l.transitions)

end Layout

end RegexNfa
