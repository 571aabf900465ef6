import RegexNfa.Search.Basic

namespace RegexNfa.Search

/-- The walk over the remaining transitions of one state, and all that they enter. It ends because
no walk adds to the budget. -/
def walk (a : Automaton) (p : Position) (remaining : List Transition) (consumed : Bool)
    (budget : Budget) : { o : Outcome // o.budget.total ≤ budget.total } :=
  match remaining with
  | [] => ⟨⟨false, budget, []⟩, Nat.le_refl _⟩
  | t :: rest =>
    if p.reads t.label then
      if consumed = true then ⟨⟨false, budget, []⟩, Nat.le_refl _⟩
      else if t.target = a.final ∧ p.closes true then ⟨⟨true, budget, []⟩, Nat.le_refl _⟩
      else if p.isInner then
        match walk a p rest true budget with
        | ⟨siblings, h⟩ => ⟨siblings.after [.deferred t.target], by simpa using h⟩
      else
        match walk a p (a.outgoing t.target) true budget with
        | ⟨child, hc⟩ =>
          if child.accepted then ⟨child, hc⟩
          else
            match walk a p rest true child.budget with
            | ⟨siblings, hs⟩ =>
              ⟨siblings.after child.events, by simpa using Nat.le_trans hs hc⟩
    else if t.isEpsilon then
      if t.target = a.final ∧ p.closes consumed then ⟨⟨true, budget, []⟩, Nat.le_refl _⟩
      else if h : budget.allows t then
        have hl : (budget.spend t).total + 1 = budget.total := Budget.total_spend h
        match walk a p (a.outgoing t.target) consumed (budget.spend t) with
        | ⟨child, hc⟩ =>
          if child.accepted then ⟨child, by omega⟩
          else
            match walk a p rest consumed child.budget with
            | ⟨siblings, hs⟩ =>
              ⟨siblings.after child.events, by rw [Outcome.budget_after]; omega⟩
      else
        match walk a p rest consumed budget with
        | ⟨siblings, hs⟩ => ⟨siblings.after [.refused t], by simpa using hs⟩
    else walk a p rest consumed budget
  termination_by (budget.total, (!consumed).toNat, remaining.length)
  decreasing_by
    all_goals simp only [Prod.lex_def]
    all_goals grind

def visit (a : Automaton) (p : Position) (root : Nat) (budget : Budget) : Outcome :=
  (walk a p (a.outgoing root) false budget).val

end RegexNfa.Search
