import RegexNfa.Console.Session

namespace RegexNfa

open Console

partial def readBytes (input : IO.FS.Stream) (pending : List UInt8) : IO (List UInt8) := do
  let chunk ← input.read 1
  match chunk.toList with
  | [] => pure pending
  | b :: _ => if b = Text.Line.lineFeed then pure (b :: pending) else readBytes input (b :: pending)

def readLine (input : IO.FS.Stream) : IO (Option Text.Line) := do
  let bytes ← readBytes input []
  pure (Text.Line.ofInput bytes.reverse).head?

def saveDrawing (path : String) (a : Automaton) : IO (Option CreateError) := do
  try
    IO.FS.writeFile path a.graphviz
    pure none
  catch
    | .noFileOrDirectory .. => pure (some .missing)
    | .inappropriateType .. => pure (some .directory)
    | e => pure (some (.other e.toString))

partial def converse (input output : IO.FS.Stream) (turn : Turn) : IO UInt32 := do
  output.putStr turn.output
  output.flush
  match turn.request with
  | .line waiting =>
    match ← readLine input with
    | some line => converse input output (receive waiting line)
    | none => finish waiting.close
  | .save path a => converse input output (saved path a (← saveDrawing path a))
  | .done failure => finish failure
where
  finish (failure : Option Failure) : IO UInt32 := do
    IO.eprint (errorText failure)
    pure (exitCode failure)

def program (arguments : List String) : IO UInt32 := do
  match Command.ofArguments arguments with
  | none =>
    IO.eprint helpText
    pure 2
  | some .help =>
    IO.print helpText
    pure 0
  | some .version =>
    IO.print versionText
    pure 0
  | some (.run options) => converse (← IO.getStdin) (← IO.getStdout) (start options)

end RegexNfa

def main (arguments : List String) : IO UInt32 := RegexNfa.program arguments
