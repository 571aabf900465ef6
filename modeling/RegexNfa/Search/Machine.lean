import RegexNfa.Search.Basic

/-!
The exploration of one offset, as a machine on a stack of frames. Every step tries one transition of
the top frame or leaves that frame. A run ends because each step spends budget, sets the flag of a
frame, or leaves less to try.
-/

namespace RegexNfa.Search

structure Config where
  stack : List Frame
  budget : Budget
  deriving DecidableEq

inductive Step where
  | accept (budget : Budget)
  | next (config : Config) (events : List Event)

/-- The step that tries `t`, the rest of the frame being `rest`. A second matching symbol gives up
the whole frame. Entering the final state is tested before the budget. -/
def attempt (a : Automaton) (p : Position) (t : Transition) (rest : List Transition)
    (consumed : Bool) (below : List Frame) (budget : Budget) : Step :=
  if p.reads t.label then
    if consumed then .next ⟨below, budget⟩ []
    else if t.target = a.final ∧ p.closes true then .accept budget
    else if p.isInner then .next ⟨⟨rest, true⟩ :: below, budget⟩ [.deferred t.target]
    else .next ⟨enter a t.target true :: ⟨rest, true⟩ :: below, budget⟩ []
  else if t.isEpsilon then
    if t.target = a.final ∧ p.closes consumed then .accept budget
    else if budget.allows t then
      .next ⟨enter a t.target consumed :: ⟨rest, consumed⟩ :: below, budget.spend t⟩ []
    else .next ⟨⟨rest, consumed⟩ :: below, budget⟩ [.refused t]
  else .next ⟨⟨rest, consumed⟩ :: below, budget⟩ []

def step (a : Automaton) (p : Position) : Frame → List Frame → Budget → Step
  | ⟨[], _⟩, below, budget => .next ⟨below, budget⟩ []
  | ⟨t :: rest, consumed⟩, below, budget => attempt a p t rest consumed below budget

namespace Config

def size (c : Config) : Nat × Nat × Nat :=
  (c.budget.total, c.stack.countP (!·.consumed),
    (c.stack.flatMap (·.remaining)).length + c.stack.length)

def Smaller (c d : Config) : Prop :=
  Prod.Lex (· < ·) (Prod.Lex (· < ·) (· < ·)) c.size d.size

end Config

theorem step_smaller {a : Automaton} {p : Position} {frame : Frame} {below : List Frame}
    {budget : Budget} {c : Config} {events : List Event}
    (h : step a p frame below budget = .next c events) : c.Smaller ⟨frame :: below, budget⟩ := by
  obtain ⟨remaining, consumed⟩ := frame
  unfold Config.Smaller Config.size
  simp only [Prod.lex_def]
  cases remaining with
  | nil => cases consumed <;> grind [step]
  | cons t rest =>
    simp only [step, attempt] at h
    grind [Budget.total_spend, enter]

def run (a : Automaton) (p : Position) : List Frame → Budget → Outcome
  | [], budget => ⟨false, budget, []⟩
  | frame :: below, budget =>
    match _h : step a p frame below budget with
    | .accept left => ⟨true, left, []⟩
    | .next c events => (run a p c.stack c.budget).after events
  termination_by stack budget => Config.size ⟨stack, budget⟩
  decreasing_by exact step_smaller _h

theorem run_nil (a : Automaton) (p : Position) (budget : Budget) :
    run a p [] budget = ⟨false, budget, []⟩ := by
  rw [run]

theorem run_of_accept {a : Automaton} {p : Position} {frame : Frame} {below : List Frame}
    {budget left : Budget} (h : step a p frame below budget = .accept left) :
    run a p (frame :: below) budget = ⟨true, left, []⟩ := by
  rw [run]
  split <;> simp_all

theorem run_of_next {a : Automaton} {p : Position} {frame : Frame} {below stack : List Frame}
    {budget left : Budget} {events : List Event}
    (h : step a p frame below budget = .next ⟨stack, left⟩ events) :
    run a p (frame :: below) budget = (run a p stack left).after events := by
  rw [run]
  split <;> simp_all

def explore (a : Automaton) (p : Position) (root : Nat) (budget : Budget) : Outcome :=
  run a p [enter a root false] budget

end RegexNfa.Search
