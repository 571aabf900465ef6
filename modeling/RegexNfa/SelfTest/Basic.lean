import RegexNfa.Log
import RegexNfa.Text.Verdict

namespace RegexNfa.SelfTest

inductive Expectation where
  | accept
  | reject
  | invalid
  deriving DecidableEq

structure Case where
  expression : String
  text : String
  expected : Expectation
  deriving DecidableEq

structure Result where
  case : Case
  outcome : Except CompileError (Automaton × Bool)

namespace Result

def automaton? (r : Result) : Option Automaton :=
  match r.outcome with
  | .ok (a, _) => some a
  | .error _ => none

/-- Any other refusal than by the surface rules is a failure, even where one was expected. -/
def passed (r : Result) : Bool :=
  match r.outcome, r.case.expected with
  | .ok (_, verdict), .accept => verdict
  | .ok (_, verdict), .reject => !verdict
  | .error (.invalidExpression _), .invalid => true
  | _, _ => false

def verdictText (r : Result) : String :=
  match r.outcome with
  | .ok (_, verdict) => Text.verdict verdict
  | .error e => e.message

def line (r : Result) : String :=
  r.case.expression ++ " : " ++ r.case.text ++ " : " ++ r.verdictText ++ " : " ++
    if r.passed then "OK" else "FAILED"

def records (r : Result) : List Log.Record :=
  Log.ofCompile r.case.expression ++
    (match r.automaton? with
    | some a => Log.ofMatch a r.case.text
    | none => []) ++
    if r.passed then [] else [⟨.warn, "self-test case failed: " ++ r.line⟩]

end Result

def Case.run (c : Case) : Result :=
  ⟨c, (compile c.expression).map fun a => (a, a.accepts c.text)⟩

abbrev Report := List Result

def run (cases : List Case) : Report := cases.map Case.run

namespace Report

def failures (r : Report) : List Result := r.filter (!·.passed)

def failed (r : Report) : Nat := r.failures.length

def passed (r : Report) : Nat := r.length - r.failed

def invalid (r : Report) : Nat := (r.filter (·.automaton?.isNone)).length

def isSuccess (r : Report) : Bool := r.failures.isEmpty

def summary (r : Report) : String :=
  if 0 < r.failed then "[self-test] " ++ r.failed.repr ++ "/" ++ r.length.repr ++ " FAILED"
  else "[self-test] ALL " ++ r.length.repr ++ " TESTS PASSED"

def records (r : Report) : List Log.Record := r.flatMap Result.records

end Report

end RegexNfa.SelfTest
