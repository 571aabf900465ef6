import RegexNfa.Automaton.Basic
import RegexNfa.Text.Lines

namespace RegexNfa.Automaton

def node (a : Automaton) (state : Nat) : String :=
  "node[label=\"" ++ state.repr ++ "\"" ++
    (if state = a.final then ", shape=doublecircle" else "") ++ "] id" ++ state.repr

def edge (t : Transition) : String :=
  "id" ++ t.source.repr ++ " -> id" ++ t.target.repr ++
    " [label=\"" ++ t.label.mark.toString ++ "\"]"

def graphvizLines (a : Automaton) : List String :=
  ["digraph \x7b", "rankdir=LR"] ++ (List.range a.stateCount).map a.node ++
    a.transitions.map edge ++ ["\x7d"]

def graphviz (a : Automaton) : String := Text.unlines a.graphvizLines

end RegexNfa.Automaton
