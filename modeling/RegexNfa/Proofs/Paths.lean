import RegexNfa.Automaton.Path
import Mathlib.Logic.Relation
import Mathlib.Tactic.Common

namespace RegexNfa

def Label.word : Label → List Char
  | .epsilon => []
  | .symbol c => [c]

namespace Path

theorem step {table : List Transition} {t : Transition} {w : List Char} {u : Nat}
    (ht : t ∈ table) (h : Path table t.target w u) :
    Path table t.source (t.label.word ++ w) u := by
  obtain ⟨s, l, v⟩ := t
  cases l with
  | epsilon => exact .epsilon ht h
  | symbol c => exact .symbol ht h

@[elab_as_elim]
theorem step_induction {table : List Transition} {u : Nat}
    {motive : (s : Nat) → (w : List Char) → Path table s w u → Prop}
    (nil : motive u [] (.nil u))
    (step : ∀ (t : Transition) (ht : t ∈ table) (w : List Char) (h : Path table t.target w u),
      motive t.target w h → motive t.source (t.label.word ++ w) (.step ht h))
    {s : Nat} {w : List Char} (h : Path table s w u) : motive s w h := by
  induction h with
  | nil => exact nil
  | epsilon he hp ih => exact step _ he _ hp (ih nil step)
  | symbol hc hp ih => exact step _ hc _ hp (ih nil step)

theorem first_step {table : List Transition} {s u : Nat} {w : List Char} (h : Path table s w u) :
    (s = u ∧ w = []) ∨
      ∃ t ∈ table, t.source = s ∧ ∃ v, w = t.label.word ++ v ∧ Path table t.target v u := by
  induction h using step_induction with
  | nil => exact .inl ⟨rfl, rfl⟩
  | step t ht w hp _ => exact .inr ⟨t, ht, rfl, w, rfl, hp⟩

theorem eq_nil_of_sink {table : List Transition} {s u : Nat} {w : List Char}
    (hs : ∀ t ∈ table, t.source ≠ s) (h : Path table s w u) : s = u ∧ w = [] := by
  obtain h | ⟨t, ht, he, -⟩ := h.first_step
  · exact h
  · exact absurd he (hs t ht)

theorem then_epsilon {table : List Transition} {t : Transition} {s : Nat} {w : List Char}
    (h : Path table s w t.source) (ht : t ∈ table) (he : t.isEpsilon = true) :
    Path table s w t.target := by
  rw [Transition.isEpsilon_iff] at he
  rw [he] at ht
  simpa using h.append (.epsilon ht (.nil _))

theorem keeps {table : List Transition} {P : Nat → Prop} {s u : Nat} {w : List Char}
    (h : Path table s w u) (hw : w = [])
    (hP : ∀ t ∈ table, t.isEpsilon = true → P t.source → P t.target) (hs : P s) : P u := by
  induction h with
  | nil => exact hs
  | epsilon he _ ih => exact ih hw (hP _ he rfl hs)
  | symbol => cases hw

theorem labelled {table : List Transition} {s u : Nat} {w : List Char} (h : Path table s w u) :
    ∀ c ∈ w, ∃ t ∈ table, t.label = .symbol c := by
  induction h with
  | nil => simp
  | epsilon _ _ ih => exact ih
  | symbol hc _ ih => exact List.forall_mem_cons.mpr ⟨⟨_, hc, rfl⟩, ih⟩

theorem after_last_symbol {table : List Transition} {s u : Nat} {w : List Char}
    (h : Path table s w u) :
    ∃ r, Path table r [] u ∧ ((w = [] ∧ r = s) ∨
      ∃ v c t, w = v ++ [c] ∧ Path table s v t ∧ .symbol t c r ∈ table) := by
  induction h with
  | nil s => exact ⟨s, .nil s, .inl ⟨rfl, rfl⟩⟩
  | @epsilon s t u w he hp ih =>
    obtain ⟨r, hr, ⟨rfl, rfl⟩ | ⟨v, c, x, rfl, hv, hc⟩⟩ := ih
    · exact ⟨s, .epsilon he hr, .inl ⟨rfl, rfl⟩⟩
    · exact ⟨r, hr, .inr ⟨v, c, x, rfl, .epsilon he hv, hc⟩⟩
  | @symbol s t u c w he hp ih =>
    obtain ⟨r, hr, ⟨rfl, rfl⟩ | ⟨v, d, x, rfl, hv, hd⟩⟩ := ih
    · exact ⟨r, hr, .inr ⟨[], c, s, rfl, .nil s, he⟩⟩
    · exact ⟨r, hr, .inr ⟨c :: v, d, x, rfl, .symbol he hv, hd⟩⟩

end Path

def EpsilonStep (table : List Transition) (s u : Nat) : Prop := .epsilon s u ∈ table

theorem epsilonStep_of_mem {table : List Transition} {t : Transition} (ht : t ∈ table)
    (he : t.isEpsilon = true) : EpsilonStep table t.source t.target := by
  rw [Transition.isEpsilon_iff] at he
  exact he ▸ ht

theorem path_nil_iff {table : List Transition} {s u : Nat} :
    Path table s [] u ↔ Relation.ReflTransGen (EpsilonStep table) s u := by
  constructor
  · intro h
    refine h.keeps rfl ?_ .refl
    intro t ht he hs
    exact hs.tail (epsilonStep_of_mem ht he)
  · intro h
    induction h with
    | refl => exact .nil s
    | tail _ he ih => exact ih.then_epsilon he rfl

def Automaton.Arrives (a : Automaton) (w : List Char) (s : Nat) : Prop :=
  (w = [] ∧ s = 0) ∨
    ∃ v c t, w = v ++ [c] ∧ Path a.transitions 0 v t ∧ .symbol t c s ∈ a.transitions

theorem Automaton.arrives_concat_iff {a : Automaton} {u : List Char} {c : Char} {s : Nat} :
    a.Arrives (u ++ [c]) s ↔
      ∃ t, Path a.transitions 0 u t ∧ .symbol t c s ∈ a.transitions := by
  constructor
  · rintro (⟨h, -⟩ | ⟨v, d, t, hv, hpath, hd⟩)
    · exact absurd h (List.concat_ne_nil c u)
    · obtain ⟨rfl, rfl⟩ : u = v ∧ c = d := by simpa using List.append_inj' hv rfl
      exact ⟨t, hpath, hd⟩
  · rintro ⟨t, hpath, hc⟩
    exact .inr ⟨u, c, t, rfl, hpath, hc⟩

theorem Automaton.Arrives.path {a : Automaton} {w : List Char} {s : Nat} (h : a.Arrives w s) :
    Path a.transitions 0 w s := by
  obtain ⟨rfl, rfl⟩ | ⟨v, c, t, rfl, hv, hc⟩ := h
  · exact .nil 0
  · exact hv.append (.symbol hc (.nil s))

theorem Automaton.path_iff_arrives {a : Automaton} {w : List Char} {u : Nat} :
    Path a.transitions 0 w u ↔ ∃ r, a.Arrives w r ∧ Path a.transitions r [] u := by
  constructor
  · intro h
    obtain ⟨r, hr, h⟩ := h.after_last_symbol
    exact ⟨r, h, hr⟩
  · rintro ⟨r, hr, hu⟩
    simpa using hr.path.append hu

end RegexNfa
