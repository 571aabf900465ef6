import RegexNfa.Automaton.Basic
import RegexNfa.Text.Lines

namespace RegexNfa

def Transition.text (t : Transition) : String :=
  "(" ++ t.source.repr ++ ", " ++ t.label.mark.toString ++ ", " ++ t.target.repr ++ ")"

def Automaton.listing (a : Automaton) : String :=
  Text.unlines (a.transitions.map Transition.text) ++
    "Start state: 0  |  Final state: " ++ a.final.repr

end RegexNfa
