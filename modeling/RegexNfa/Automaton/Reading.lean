import RegexNfa.Automaton.Graphviz
import RegexNfa.Automaton.Listing

namespace RegexNfa

namespace Text

def lines (text : String) : List (List Char) := text.toList.splitOn '\n'

def expect (expected : String) (cs : List Char) : Option (List Char) :=
  if expected.toList.isPrefixOf cs then some (cs.drop expected.toList.length) else none

def readNumber? (cs : List Char) : Option (Nat × List Char) :=
  let digits := cs.takeWhile Char.isDigit
  if digits = [] then none else some (Nat.ofDigitChars 10 digits 0, cs.dropWhile Char.isDigit)

end Text

open Text (expect readNumber?)

def Label.ofMark (c : Char) : Label := if c = 'ε' then .epsilon else .symbol c

def Label.read? : List Char → Option (Label × List Char)
  | [] => none
  | c :: rest => some (.ofMark c, rest)

namespace Listing

def transition? (line : List Char) : Option Transition := do
  let rest ← expect "(" line
  let (source, rest) ← readNumber? rest
  let rest ← expect ", " rest
  let (label, rest) ← Label.read? rest
  let rest ← expect ", " rest
  let (target, rest) ← readNumber? rest
  if rest = [')'] then some ⟨source, label, target⟩ else none

def final? (line : List Char) : Option Nat := do
  let rest ← expect "Start state: 0  |  Final state: " line
  let (final, rest) ← readNumber? rest
  if rest = [] then some final else none

def transitions (text : String) : List Transition := (Text.lines text).filterMap transition?

def finals (text : String) : List Nat := (Text.lines text).filterMap final?

end Listing

namespace Drawing

structure Node where
  state : Nat
  shown : Nat
  doubled : Bool
  deriving DecidableEq

def node? (line : List Char) : Option Node := do
  let rest ← expect "node[label=\"" line
  let (shown, rest) ← readNumber? rest
  let rest ← expect "\"" rest
  let circle := expect ", shape=doublecircle" rest
  let rest ← expect "] id" (circle.getD rest)
  let (state, rest) ← readNumber? rest
  if rest = [] then some ⟨state, shown, circle.isSome⟩ else none

def edge? (line : List Char) : Option Transition := do
  let rest ← expect "id" line
  let (source, rest) ← readNumber? rest
  let rest ← expect " -> id" rest
  let (target, rest) ← readNumber? rest
  let rest ← expect " [label=\"" rest
  let (label, rest) ← Label.read? rest
  if rest = "\"]".toList then some ⟨source, label, target⟩ else none

def nodes (text : String) : List Node := (Text.lines text).filterMap node?

def edges (text : String) : List Transition := (Text.lines text).filterMap edge?

def others (text : String) : List (List Char) :=
  (Text.lines text).filter fun line => (node? line).isNone && (edge? line).isNone

end Drawing

end RegexNfa
