import RegexNfa.Console.Session

namespace RegexNfa.Console

open RegexNfa.Text (Line)

structure Drawing where
  place : Place
  content : String
  deriving DecidableEq

structure Transcript where
  output : String
  drawings : List Drawing
  failure : Option Failure
  deriving DecidableEq

namespace Transcript

def after (t : Transcript) (output : String) : Transcript :=
  { t with output := output ++ t.output }

@[simp] theorem after_empty (t : Transcript) : t.after "" = t := by
  simp [after]

@[simp] theorem after_after (t : Transcript) (output more : String) :
    (t.after more).after output = t.after (output ++ more) := by
  simp [after, String.append_assoc]

def withDrawing (t : Transcript) (d : Drawing) : Transcript :=
  { t with drawings := d :: t.drawings }

end Transcript

/-- A request to save is followed by another kind of request. -/
def Request.rank : Request → Nat
  | .line _ => 0
  | .save _ _ => 1
  | .done _ => 0

theorem rank_saved (path : String) (a : Automaton) (e : Option CreateError) :
    (saved path a e).request.rank = 0 := by
  cases e <;> rfl

def play (folders : Folders) (turn : Turn) (lines : List Line) : Transcript :=
  match _h : turn.request with
  | .done failure => ⟨turn.output, [], failure⟩
  | .save path a =>
    match folders.create? path with
    | .ok place =>
      ((play folders (saved path a none) lines).withDrawing ⟨place, a.graphviz⟩).after turn.output
    | .error e => (play folders (saved path a (some e)) lines).after turn.output
  | .line waiting =>
    match lines with
    | [] => ⟨turn.output, [], waiting.close⟩
    | line :: rest => (play folders (receive waiting line) rest).after turn.output
  termination_by (lines.length, turn.request.rank)
  decreasing_by
    · simp only [rank_saved, _h]
      simp [Prod.lex_def, Request.rank]
    · simp only [rank_saved, _h]
      simp [Prod.lex_def, Request.rank]
    · simp [Prod.lex_def]

def transcript (options : Options) (folders : Folders) (lines : List Line) : Transcript :=
  play folders (start options) lines

end RegexNfa.Console
