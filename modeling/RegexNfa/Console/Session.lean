import RegexNfa.Automaton.Graphviz
import RegexNfa.Automaton.Listing
import RegexNfa.Compile
import RegexNfa.Console.Options
import RegexNfa.Folders
import RegexNfa.SelfTest.Table
import RegexNfa.Text.Blank
import RegexNfa.Text.Verdict

namespace RegexNfa.Console

open RegexNfa.Text (Line)

inductive Failure where
  | compile (e : CompileError)
  | noExpression
  | unreadable
  | create (path : String) (e : CreateError)
  deriving DecidableEq

namespace Failure

def message : Failure → String
  | .compile e => e.message
  | .noExpression => "no expression given"
  | .unreadable => "could not read from stdin"
  | .create path _ => "could not create `" ++ path ++ "`"

def cause? : Failure → Option String
  | .compile _ => none
  | .noExpression => none
  | .unreadable => some "stream did not contain valid UTF-8"
  | .create _ e => some e.message

def report (f : Failure) : String :=
  "Error: " ++ f.message ++ "\n" ++
    match f.cause? with
    | some cause => "\nCaused by:\n    " ++ cause ++ "\n"
    | none => ""

end Failure

def errorText : Option Failure → String
  | none => ""
  | some failure => failure.report

def exitCode : Option Failure → UInt32
  | none => 0
  | some _ => 1

inductive Waiting where
  | expression (options : Options)
  | text (a : Automaton)

inductive Request where
  | line (next : Waiting)
  | save (path : String) (a : Automaton)
  | done (failure : Option Failure)

structure Turn where
  output : String
  request : Request

namespace Turn

def after (turn : Turn) (output : String) : Turn := { turn with output := output ++ turn.output }

end Turn

def selfTestLines (showAutomaton : Bool) : List String :=
  let report := SelfTest.run SelfTest.table
  ["[self-test] running " ++ SelfTest.table.length.repr ++ " cases"] ++
    report.flatMap (fun r =>
      r.line :: if showAutomaton then r.automaton?.toList.map Automaton.listing else []) ++
    [report.summary,
      "[self-test] " ++ report.passed.repr ++ " passed, " ++ report.failed.repr ++ " failed, " ++
        report.invalid.repr ++ " refused to compile"]

def textPrompt : String := Text.unlines ["=====================", "Input string to check"]

def expressionPrompt : String := Text.unlines ["Input regex"]

def askText (a : Automaton) : Turn := ⟨textPrompt, .line (.text a)⟩

def begin (options : Options) (expression : String) : Turn :=
  match RegexNfa.compile expression with
  | .error e => ⟨"", .done (some (.compile e))⟩
  | .ok a =>
    let listing := Text.unlines [a.listing]
    match options.drawing with
    | some path => ⟨listing, .save path a⟩
    | none => (askText a).after listing

def start (options : Options) : Turn :=
  let first :=
    match options.expression with
    | some expression => begin options expression
    | none => ⟨expressionPrompt, .line (.expression options)⟩
  if options.skipSelfTest then first
  else first.after (Text.unlines (selfTestLines options.showAutomaton))

def receive (waiting : Waiting) : Line → Turn
  | .undecodable => ⟨"", .done (some .unreadable)⟩
  | .text content =>
    match waiting with
    | .expression options => begin options (Text.trim content)
    | .text a => (askText a).after (Text.unlines [Text.verdict (a.accepts (Text.trim content))])

def Waiting.close : Waiting → Option Failure
  | .expression _ => some .noExpression
  | .text _ => none

def saved (path : String) (a : Automaton) : Option CreateError → Turn
  | none => askText a
  | some e => ⟨"", .done (some (.create path e))⟩

def versionText : String := Text.unlines ["thompson 0.1.0"]

def helpText : String :=
  Text.unlines
    ["Usage: thompson [OPTIONS] [EXPRESSION]",
      "",
      "  --skip-self-test      Do not run the built-in test table on start-up",
      "  -a, --show-automaton  Print the automaton of every self-test case",
      "  --dot <PATH>          Write the compiled automaton to PATH in Graphviz format",
      "  -h, --help            Print help",
      "  -V, --version         Print version"]

end RegexNfa.Console
