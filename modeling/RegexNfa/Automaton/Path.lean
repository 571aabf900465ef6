import RegexNfa.Automaton.Basic

namespace RegexNfa

inductive Path (table : List Transition) : Nat → List Char → Nat → Prop
  | nil (s : Nat) : Path table s [] s
  | epsilon {s t u : Nat} {w : List Char} :
      .epsilon s t ∈ table → Path table t w u → Path table s w u
  | symbol {s t u : Nat} {c : Char} {w : List Char} :
      .symbol s c t ∈ table → Path table t w u → Path table s (c :: w) u

namespace Path

theorem append {table : List Transition} {s t u : Nat} {v w : List Char}
    (h : Path table s v t) (h' : Path table t w u) : Path table s (v ++ w) u := by
  induction h with
  | nil => exact h'
  | epsilon he _ ih => exact .epsilon he (ih h')
  | symbol hc _ ih => exact .symbol hc (ih h')

theorem mono {table larger : List Transition} {s t : Nat} {w : List Char}
    (h : Path table s w t) (hsub : ∀ e ∈ table, e ∈ larger) : Path larger s w t := by
  induction h with
  | nil => exact .nil _
  | epsilon he _ ih => exact .epsilon (hsub _ he) ih
  | symbol hc _ ih => exact .symbol (hsub _ hc) ih

theorem shifted {table : List Transition} {s t : Nat} {w : List Char} (offset : Nat)
    (h : Path table s w t) :
    Path (table.map (·.shifted offset)) (s + offset) w (t + offset) := by
  induction h with
  | nil => exact .nil _
  | epsilon he _ ih => exact .epsilon (List.mem_map_of_mem (f := (·.shifted offset)) he) ih
  | symbol hc _ ih => exact .symbol (List.mem_map_of_mem (f := (·.shifted offset)) hc) ih

end Path

def Automaton.Spells (a : Automaton) (w : List Char) : Prop := Path a.transitions 0 w a.final

end RegexNfa
