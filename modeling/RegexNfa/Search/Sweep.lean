import RegexNfa.Search.Machine

namespace RegexNfa

namespace Search

def exploreAll (a : Automaton) (p : Position) : List Nat → Budget → Outcome
  | [], budget => ⟨false, budget, []⟩
  | root :: roots, budget => (explore a p root budget).andThen (exploreAll a p roots)

structure Sweep where
  frontier : List Nat
  outcome : Outcome
  deriving DecidableEq

def sweep (a : Automaton) (p : Position) (budget : Budget) (frontier : List Nat) : Sweep :=
  ⟨frontier, exploreAll a p frontier budget⟩

def sweeps (a : Automaton) (budget : Budget) (frontier : List Nat) : List Char → List Sweep
  | [] => [sweep a .blank budget frontier]
  | [c] => [sweep a (.last c) budget frontier]
  | c :: d :: rest =>
    let first := sweep a (.inner c) budget frontier
    first :: sweeps a budget first.outcome.deferred (d :: rest)

end Search

namespace Automaton

def sweeps (a : Automaton) (text : List Char) : List Search.Sweep :=
  Search.sweeps a (Search.Budget.full a) [0] text

def acceptsChars (a : Automaton) (text : List Char) : Bool :=
  (a.sweeps text).any (·.outcome.accepted)

def accepts (a : Automaton) (text : String) : Bool := a.acceptsChars text.toList

end Automaton

end RegexNfa
