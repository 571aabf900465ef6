import RegexNfa.Automaton.Basic
import RegexNfa.Text.Quoted

namespace RegexNfa.Constructor

def state (s : Nat) : String := s.repr ++ "usize"

def symbol (c : Char) : String := String.ofList (Text.quotedChar c)

def label (path : List String) : Label → List String
  | .epsilon => path ++ ["::", "Label", "::", "Epsilon"]
  | .symbol c => path ++ ["::", "Label", "::", "Symbol", "(", symbol c, ")"]

def transition (path : List String) (t : Transition) : List String :=
  path ++ ["::", "Transition", "::", "new", "(", state t.source, ",", state t.target, ","] ++
    label path t.label ++ [")"]

def opening (path : List String) : List String :=
  path ++ ["::", "Automaton", "::", "from_transitions", "(", "::", "std", "::", "vec", "!", "["]

def closing (final : Nat) : List String := ["]", ",", state final, ",", ")"]

def tokens (path : List String) (a : Automaton) : List String :=
  opening path ++ [","].intercalate (a.transitions.map (transition path)) ++ closing a.final

def text (path : List String) (a : Automaton) : String := " ".intercalate (tokens path a)

def pathTokens (path : String) : List String :=
  let names := path.splitOn "::"
  (names.head?.toList ++ names.tail.flatMap (["::", ·])).filter (· ≠ "")

def expect (expected : List String) (tokens : List String) : Option (List String) :=
  if tokens.take expected.length = expected then some (tokens.drop expected.length) else none

def readState? (token : String) : Option Nat :=
  let digits := token.toList.takeWhile Char.isDigit
  if digits ≠ [] ∧ token.toList.drop digits.length = "usize".toList then
    some (Nat.ofDigitChars 10 digits 0)
  else none

def readLabel? (path : List String) (tokens : List String) : Option (Label × List String) := do
  let rest ← expect (path ++ ["::", "Label", "::"]) tokens
  match rest with
  | "Epsilon" :: rest => some (.epsilon, rest)
  | "Symbol" :: "(" :: token :: ")" :: rest =>
    (Text.readQuotedChar? token.toList).map fun c => (.symbol c, rest)
  | _ => none

def readTransition? (path : List String) (tokens : List String) :
    Option (Transition × List String) := do
  let rest ← expect (path ++ ["::", "Transition", "::", "new", "("]) tokens
  match rest with
  | source :: "," :: target :: "," :: rest =>
    let source ← readState? source
    let target ← readState? target
    let (label, rest) ← readLabel? path rest
    let rest ← expect [")"] rest
    some (⟨source, label, target⟩, rest)
  | _ => none

def readTable (path : List String) : Nat → List String → List Transition × List String
  | 0, tokens => ([], tokens)
  | count + 1, tokens =>
    match readTransition? path tokens with
    | none => ([], tokens)
    | some (first, "," :: rest) =>
      let (others, rest) := readTable path count rest
      (first :: others, rest)
    | some (first, rest) => ([first], rest)

def read? (path : List String) (tokens : List String) : Option (List Transition × Nat) := do
  let rest ← expect (path ++ ["::", "Automaton", "::", "from_transitions", "("]) tokens
  let rest ← expect ["::", "std", "::", "vec", "!", "["] rest
  match readTable path rest.length rest with
  | (table, ["]", ",", final, ",", ")"]) => (readState? final).map (table, ·)
  | _ => none

end RegexNfa.Constructor
