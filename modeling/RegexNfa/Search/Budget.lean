import RegexNfa.Automaton.Basic

/-!
Budgets: the epsilon transitions that may still be taken while one offset is explored. A budget is
a tree over the source states, so that a search pays for the transitions that it meets and not for
the size of the automaton. Main statements: what spending leaves of every source, and that it takes
exactly one use away.
-/

namespace RegexNfa.Search

/-- At the root are the uses of transitions out of state 0, one entry for each use. Below it are the
odd states and the even ones, each halved. -/
inductive Budget where
  | none
  | node (uses : List Transition) (odd even : Budget)
  deriving DecidableEq

namespace Budget

def usesFrom : Budget → Nat → List Transition
  | .none, _ => []
  | .node uses _ _, 0 => uses
  | .node _ odd even, s + 1 => if s % 2 = 0 then odd.usesFrom (s / 2) else even.usesFrom (s / 2)

def allows (budget : Budget) (t : Transition) : Bool := t ∈ budget.usesFrom t.source

def change (f : List Transition → List Transition) : Budget → Nat → Budget
  | .none, _ => .none
  | .node uses odd even, 0 => .node (f uses) odd even
  | .node uses odd even, s + 1 =>
    if s % 2 = 0 then .node uses (odd.change f (s / 2)) even
    else .node uses odd (even.change f (s / 2))

def spend (budget : Budget) (t : Transition) : Budget := budget.change (·.erase t) t.source

def parts : Budget → List Transition × Budget × Budget
  | .none => ([], .none, .none)
  | .node uses odd even => (uses, odd, even)

def put (more : List Transition) (s : Nat) (budget : Budget) : Budget :=
  match s with
  | 0 => .node (more ++ budget.parts.1) budget.parts.2.1 budget.parts.2.2
  | s + 1 =>
    if s % 2 = 0 then .node budget.parts.1 (put more (s / 2) budget.parts.2.1) budget.parts.2.2
    else .node budget.parts.1 budget.parts.2.1 (put more (s / 2) budget.parts.2.2)

def grant (budget : Budget) (t : Transition) : Budget :=
  if budget.allows t then budget else budget.put [t, t] t.source

/-- Every epsilon transition twice, however often the table holds it. -/
def full (a : Automaton) : Budget := a.epsilons.foldl grant .none

def total : Budget → Nat
  | .none => 0
  | .node uses odd even => uses.length + odd.total + even.total

theorem usesFrom_zero (budget : Budget) : budget.usesFrom 0 = budget.parts.1 := by
  cases budget <;> rfl

theorem usesFrom_succ (budget : Budget) (s : Nat) :
    budget.usesFrom (s + 1) =
      if s % 2 = 0 then budget.parts.2.1.usesFrom (s / 2)
      else budget.parts.2.2.usesFrom (s / 2) := by
  cases budget <;> simp [usesFrom, parts]

theorem usesFrom_put (more : List Transition) (s : Nat) (budget : Budget) (r : Nat) :
    (put more s budget).usesFrom r =
      if r = s then more ++ budget.usesFrom r else budget.usesFrom r := by
  fun_induction put more s budget generalizing r with
  | case1 budget =>
    cases r with
    | zero => simp [usesFrom, usesFrom_zero]
    | succ r => simp [usesFrom, usesFrom_succ]
  | case2 budget s hs ih =>
    cases r with
    | zero => simp [usesFrom, usesFrom_zero]
    | succ r => grind [usesFrom, usesFrom_succ]
  | case3 budget s hs ih =>
    cases r with
    | zero => simp [usesFrom, usesFrom_zero]
    | succ r => grind [usesFrom, usesFrom_succ]

theorem usesFrom_change (f : List Transition → List Transition) (hf : f [] = []) (budget : Budget)
    (s r : Nat) :
    (budget.change f s).usesFrom r =
      if r = s then f (budget.usesFrom r) else budget.usesFrom r := by
  fun_induction change f budget s generalizing r with
  | case1 => simp [usesFrom, hf]
  | case2 uses odd even => cases r <;> simp [usesFrom]
  | case3 uses odd even s hs ih => cases r <;> grind [usesFrom]
  | case4 uses odd even s hs ih => cases r <;> grind [usesFrom]

theorem usesFrom_spend (budget : Budget) (t : Transition) (s : Nat) :
    (budget.spend t).usesFrom s =
      if s = t.source then (budget.usesFrom s).erase t else budget.usesFrom s :=
  usesFrom_change (·.erase t) rfl budget t.source s

theorem total_change {f : List Transition → List Transition} {budget : Budget} {s : Nat}
    (hf : (f (budget.usesFrom s)).length + 1 = (budget.usesFrom s).length) :
    (budget.change f s).total + 1 = budget.total := by
  fun_induction change f budget s with
  | case1 => simp [usesFrom] at hf
  | case2 uses odd even =>
    simp only [usesFrom] at hf
    simp only [total]
    omega
  | case3 uses odd even s hs ih =>
    simp only [usesFrom, hs, ↓reduceIte] at hf
    have := ih hf
    simp only [total]
    omega
  | case4 uses odd even s hs ih =>
    simp only [usesFrom, hs, ↓reduceIte] at hf
    have := ih hf
    simp only [total]
    omega

theorem total_spend {budget : Budget} {t : Transition} (h : budget.allows t = true) :
    (budget.spend t).total + 1 = budget.total := by
  have hm : t ∈ budget.usesFrom t.source := by simpa [allows] using h
  have hpos := List.length_pos_of_mem hm
  apply total_change
  rw [List.length_erase_of_mem hm]
  omega

end Budget

end RegexNfa.Search
