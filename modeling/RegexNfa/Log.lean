import RegexNfa.Automaton.Listing
import RegexNfa.Compile
import RegexNfa.Text.Quoted
import RegexNfa.Text.Verdict

namespace RegexNfa.Log

inductive Level where
  | warn
  | debug
  | trace
  deriving DecidableEq

def Level.verbosity : Level → Nat
  | .warn => 0
  | .debug => 1
  | .trace => 2

structure Record where
  level : Level
  message : String
  deriving DecidableEq

def upTo (level : Level) (records : List Record) : List Record :=
  records.filter fun r => r.level.verbosity ≤ level.verbosity

def ofCompile (expression : String) : List Record :=
  match compile expression with
  | .ok a =>
    [⟨.debug, "compiled " ++ Text.quoted expression ++ " (postfix `" ++
      Postfix.text (Postfix.ofExpression expression) ++ "`): " ++ a.stateCount.repr ++
      " states, " ++ a.transitions.length.repr ++ " transitions"⟩]
  | .error (.invalidExpression e) => [⟨.debug, "rejected expression " ++ Text.quoted e⟩]
  | .error _ => []

def ofEvent (offset : Nat) : Search.Event → Record
  | .deferred state =>
    ⟨.trace, "offset " ++ (offset + 1).repr ++ ": state " ++ state.repr ++ " joins the frontier"⟩
  | .refused t => ⟨.trace, "epsilon budget of " ++ t.text ++ " exhausted"⟩

def ofMatch (a : Automaton) (text : String) : List Record :=
  (a.sweeps text.toList).zipIdx.flatMap (fun (sweep, offset) =>
      sweep.outcome.events.map (ofEvent offset)) ++
    [⟨.debug, Text.quoted text ++ " accepted: " ++ Text.verdict (a.accepts text)⟩]

end RegexNfa.Log
