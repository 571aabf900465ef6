import RegexNfa.Automaton.Constructor
import RegexNfa.Automaton.Graphviz
import RegexNfa.Compile
import RegexNfa.Folders
import RegexNfa.Invocation.Arguments

namespace RegexNfa.Invocation

structure Expansion where
  arguments : Arguments
  automaton : Automaton
  drawnAt : Option Place

namespace Expansion

def libraryPath : List String := Constructor.pathTokens "::thompson"

def tokens (e : Expansion) : List String := Constructor.tokens libraryPath e.automaton

def text (e : Expansion) : String := Constructor.text libraryPath e.automaton

def drawing? (e : Expansion) : Option String := e.drawnAt.map fun _ => e.automaton.graphviz

end Expansion

inductive ExpansionError where
  | arguments (e : ArgumentError)
  | compile (e : CompileError)
  | drawing (path : String) (e : CreateError)
  deriving DecidableEq

def ExpansionError.message : ExpansionError → String
  | .arguments e => e.message
  | .compile e => e.message
  | .drawing path e => "failed while graphing at " ++ path ++ ": " ++ e.message

def draw (folders : Folders) (base : String) : Option String → Except ExpansionError (Option Place)
  | none => .ok none
  | some path =>
    let path := Folders.join base path
    match folders.withParents path >>= (·.create? path) with
    | .ok place => .ok (some place)
    | .error e => .error (.drawing path e)

/-- The arguments are read first, then the expression is compiled, then the drawing is made. -/
def expand (folders : Folders) (base input : String) : Except ExpansionError Expansion :=
  match Arguments.parse input with
  | .error e => .error (.arguments e)
  | .ok arguments =>
    match RegexNfa.compile arguments.expression with
    | .error e => .error (.compile e)
    | .ok automaton => (draw folders base arguments.graph).map (⟨arguments, automaton, ·⟩)

end RegexNfa.Invocation
