import RegexNfa.Automaton.Constructor
import RegexNfa.Invocation.Expansion
import RegexNfa.Proofs.Compilation

namespace RegexNfa

namespace Constructor

variable {path : List String}

theorem expect_append (expected rest : List String) :
    expect expected (expected ++ rest) = some rest := by
  simp [expect]

end Constructor

namespace Invocation

def literal (content : String) : String := String.ofList ('"' :: content.toList ++ ['"'])

end Invocation

open Invocation

end RegexNfa
