import RegexNfa.Search.Budget

namespace RegexNfa

namespace Search

/-- Where the search stands in the text: an empty text has only a blank position, any other has one
for each character and one past them all, where nothing is read and nothing is accepted. -/
inductive Position where
  | blank
  | inner (c : Char)
  | last (c : Char)
  | past
  deriving DecidableEq

namespace Position

def ofOffset (text : List Char) (offset : Nat) : Position :=
  match text, text[offset]? with
  | [], _ => .blank
  | _, none => .past
  | _, some c => if offset + 1 = text.length then .last c else .inner c

def char? : Position → Option Char
  | .blank => none
  | .inner c => some c
  | .last c => some c
  | .past => none

def isInner : Position → Bool
  | .inner _ => true
  | _ => false

def reads (p : Position) : Label → Bool
  | .epsilon => false
  | .symbol c => p.char? == some c

def closes : Position → Bool → Bool
  | .blank, _ => true
  | .inner _, _ => false
  | .last _, consumed => consumed
  | .past, _ => false

end Position

/-- A state on the search stack: the transitions it has yet to try, and whether this branch has
consumed the symbol at the current position. Once set, the flag also holds for the later
transitions of the same state. -/
structure Frame where
  remaining : List Transition
  consumed : Bool
  deriving DecidableEq

def enter (a : Automaton) (state : Nat) (consumed : Bool) : Frame := ⟨a.outgoing state, consumed⟩

inductive Event where
  | deferred (state : Nat)
  | refused (t : Transition)
  deriving DecidableEq

structure Outcome where
  accepted : Bool
  budget : Budget
  events : List Event
  deriving DecidableEq

namespace Outcome

def deferred (o : Outcome) : List Nat :=
  o.events.filterMap fun
    | .deferred state => some state
    | .refused _ => none

def hasRefusal (o : Outcome) : Bool :=
  o.events.any fun
    | .deferred _ => false
    | .refused _ => true

def after (o : Outcome) (earlier : List Event) : Outcome :=
  { o with events := earlier ++ o.events }

def andThen (o : Outcome) (next : Budget → Outcome) : Outcome :=
  match o.accepted with
  | true => o
  | false => (next o.budget).after o.events

@[simp] theorem accepted_after (o : Outcome) (earlier : List Event) :
    (o.after earlier).accepted = o.accepted := rfl

@[simp] theorem budget_after (o : Outcome) (earlier : List Event) :
    (o.after earlier).budget = o.budget := rfl

@[simp] theorem events_after (o : Outcome) (earlier : List Event) :
    (o.after earlier).events = earlier ++ o.events := rfl

@[simp] theorem after_nil (o : Outcome) : o.after [] = o := rfl

@[simp] theorem after_after (o : Outcome) (later earlier : List Event) :
    (o.after later).after earlier = o.after (earlier ++ later) := by
  simp [after]

theorem after_andThen (o : Outcome) (earlier : List Event) (next : Budget → Outcome) :
    (o.after earlier).andThen next = (o.andThen next).after earlier := by
  cases ho : o.accepted <;> simp [andThen, ho]

end Outcome

end Search

end RegexNfa
