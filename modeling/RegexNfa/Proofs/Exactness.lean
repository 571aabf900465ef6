import RegexNfa.Proofs.Acceptance

namespace RegexNfa

open Search

namespace Automaton

inductive Composed : Automaton → Prop
  | compiled {e : String} {a : Automaton} : compile e = .ok a → Composed a
  | assembled (r : Regex) : Composed (.ofFragment r.toFragment)

theorem Composed.exists_regex {a : Automaton} (h : a.Composed) :
    ∃ r : Regex, a = .ofFragment r.toFragment := by
  cases h with
  | compiled h =>
    obtain ⟨r, -, rfl⟩ := (Expression.compile_eq_ok_iff _ _).mp h
    exact ⟨r, rfl⟩
  | assembled r => exact ⟨r, rfl⟩

theorem Composed.unmixed {a : Automaton} (h : a.Composed) : Fragment.Unmixed a.transitions := by
  obtain ⟨r, rfl⟩ := h.exists_regex
  exact r.toFragment_unmixed

theorem Composed.nodup {a : Automaton} (h : a.Composed) : a.transitions.Nodup := by
  obtain ⟨r, rfl⟩ := h.exists_regex
  exact r.toFragment_nodup

variable {a : Automaton} {text : List Char} {i : Nat}

theorem frontier_exact (ha : a.Composed) (text : List Char) (hi : i < text.length) :
    ∃ s, (a.sweeps text)[i]? = some s ∧
      (∀ j < i, ∃ r, (a.sweeps text)[j]? = some r ∧ r.outcome.accepted = false) ∧
      (i = 0 → s.frontier = [0]) ∧ ∀ t, t ∈ s.frontier ↔ a.Arrives (text.take i) t := by
  refine ⟨_, a.getElem?_sweeps hi, ?_, ?_, ?_⟩
  · intro j hj
    have hp : (Position.ofOffset text j).isInner = true := by
      rw [Position.ofOffset_of_lt (by omega)]
      rfl
    exact ⟨_, a.getElem?_sweeps (by omega), outcomeAt_not_accepted _ hp⟩
  · rintro rfl
    rfl
  · intro t
    exact mem_frontier_iff ha.unmixed

theorem frontier_exact_nested_stars :
    (ofFragment (.star (.star (.literal 'a')))).Composed ∧
      ∃ s, ((ofFragment (.star (.star (.literal 'a')))).sweeps ['a', 'a'])[1]? = some s ∧
        ∀ t, t ∈ s.frontier ↔ (ofFragment (.star (.star (.literal 'a')))).Arrives ['a'] t := by
  have hc : compile "(a*)*" = .ok (.ofFragment (.star (.star (.literal 'a')))) := by
    rfl
  obtain ⟨s, hs, -, -, h⟩ := frontier_exact (.compiled hc) ['a', 'a'] (i := 1) (by decide)
  exact ⟨.compiled hc, s, hs, h⟩

end Automaton

end RegexNfa
