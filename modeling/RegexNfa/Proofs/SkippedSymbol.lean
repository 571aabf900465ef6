import RegexNfa.Proofs.Acceptance

/-!
What a success means on a table of any shape. The flag that a symbol sets also holds for the epsilon
transitions listed after it, which do not lead past the symbol, so that the last symbol of a text may
be skipped. Nothing else is: up to it a path spells the text, and it labels a transition there.
-/

namespace RegexNfa

open Search

namespace Automaton

/-- Where the search can be at the last offset. A flag says that a path has read the whole text, or
that it can be prolonged by the last symbol in a state before this one. -/
def ReadsOrSkips (a : Automaton) (u : List Char) (c : Char) : Bool → Nat → Prop
  | false, s => Path a.transitions 0 u s
  | true, s => Path a.transitions 0 (u ++ [c]) s ∨
      ∃ r, Path a.transitions 0 u r ∧ (∃ t, .symbol r c t ∈ a.transitions) ∧
        Relation.ReflTransGen (EpsilonStep a.transitions) r s

variable {a : Automaton} {u : List Char} {c : Char}

theorem kept_readsOrSkips (l : List Attempt) : Kept a (.last c) (a.ReadsOrSkips u c) l := by
  refine ⟨?_, ?_, ?_⟩
  · intro t f _ ht he hs
    cases f with
    | false => exact Path.then_epsilon hs ht he
    | true =>
      obtain hs | ⟨r, hr, hc, hrs⟩ := hs
      · exact .inl (hs.then_epsilon ht he)
      · exact .inr ⟨r, hr, hc, hrs.tail (epsilonStep_of_mem ht he)⟩
  · intro t _ ht hr _ hs
    exact .inl (path_read (p := .last c) ht hr hs)
  · intro s t v hsub hr _ hs
    obtain ⟨ht, rfl⟩ := mem_outgoing.mp (hsub.subset (.head _))
    rw [Position.eq_symbol_of_reads rfl hr] at ht
    exact .inr ⟨_, hs, ⟨_, ht⟩, .refl⟩

theorem exists_reads_last (h : Path a.transitions 0 (u ++ [c]) a.final) :
    ∃ s, Path a.transitions 0 u s ∧ ∃ t, .symbol s c t ∈ a.transitions := by
  obtain ⟨r, hr, -⟩ := path_iff_arrives.mp h
  obtain ⟨s, hs, hc⟩ := arrives_concat_iff.mp hr
  exact ⟨s, hs, r, hc⟩

theorem path_or_skips_of_accepted (h : (a.outcomeAt u (.last c)).accepted = true) :
    ∃ s, Path a.transitions 0 u s ∧ (∃ t, .symbol s c t ∈ a.transitions) ∧
      (a.Spells (u ++ [c]) ∨ Relation.TransGen (EpsilonStep a.transitions) s a.final) := by
  obtain hpath | ⟨s, hs, hc, hsf⟩ : a.Spells (u ++ [c]) ∨
      ∃ s, Path a.transitions 0 u s ∧ (∃ t, .symbol s c t ∈ a.transitions) ∧
        Relation.TransGen (EpsilonStep a.transitions) s a.final := by
    obtain ⟨t, ht, htarget, ⟨hr, -, hs⟩ | ⟨he, f, hf, hs⟩⟩ :=
      enters_of_accepted (kept_readsOrSkips _) (fun s hs => hs.path) h
    · rw [Spells, ← htarget]
      exact .inl (path_read (p := .last c) ht hr hs)
    · obtain rfl : f = true := hf
      rw [Spells, ← htarget]
      obtain hs | ⟨s, hs, hc, hst⟩ := hs
      · exact .inl (hs.then_epsilon ht he)
      · exact .inr ⟨s, hs, hc, .tail' hst (epsilonStep_of_mem ht he)⟩
  · obtain ⟨s, hs, hc⟩ := exists_reads_last hpath
    exact ⟨s, hs, hc, .inl hpath⟩
  · exact ⟨s, hs, hc, .inr hsf⟩

theorem path_or_skips_last {text : String} (htext : text.toList = u ++ [c])
    (h : a.accepts text = true) :
    (∃ s, Path a.transitions 0 u s ∧ (∃ t, .symbol s c t ∈ a.transitions) ∧
      (a.Spells (u ++ [c]) ∨ Relation.TransGen (EpsilonStep a.transitions) s a.final)) ∧
    (EpsilonsFirst a.transitions → a.Spells (u ++ [c])) ∧
    ∀ d ∈ u ++ [c], ∃ t ∈ a.transitions, t.label = .symbol d := by
  rw [accepts, htext] at h
  have haccepted : (a.outcomeAt u (.last c)).accepted = true := by
    rwa [acceptsChars_concat] at h
  obtain ⟨s, hs, ⟨t, ht⟩, hfinal⟩ := path_or_skips_of_accepted haccepted
  refine ⟨⟨s, hs, ⟨t, ht⟩, hfinal⟩, fun ha => path_of_epsilonsFirst ha h, ?_⟩
  exact (hs.append (.symbol ht (.nil t))).labelled

theorem path_or_skips_last_sibling :
    (ofTransitions [.symbol 0 'b' 1, .symbol 1 'a' 3, .epsilon 1 2] 2).accepts "ba" = true ∧
      (∃ s, Path [.symbol 0 'b' 1, .symbol 1 'a' 3, .epsilon 1 2] 0 ['b'] s ∧
        (∃ t, .symbol s 'a' t ∈ [Transition.symbol 0 'b' 1, .symbol 1 'a' 3, .epsilon 1 2]) ∧
        Relation.TransGen (EpsilonStep [.symbol 0 'b' 1, .symbol 1 'a' 3, .epsilon 1 2]) s 2) ∧
      EpsilonsFirst [.symbol 0 'b' 1, .epsilon 1 2, .symbol 1 'a' 2] ∧
      (ofTransitions [.symbol 0 'b' 1, .epsilon 1 2, .symbol 1 'a' 2] 2).Spells ['b', 'a'] := by
  have hskip : (ofTransitions [.symbol 0 'b' 1, .symbol 1 'a' 3, .epsilon 1 2] 2).accepts "ba" =
      true := by
    cbv
  have hread : (ofTransitions [.symbol 0 'b' 1, .epsilon 1 2, .symbol 1 'a' 2] 2).accepts "ba" =
      true := by
    cbv
  have hfirst : EpsilonsFirst [.symbol 0 'b' 1, .epsilon 1 2, .symbol 1 'a' 2] := by
    unfold EpsilonsFirst
    decide
  have hbeside : ¬ (ofTransitions [.symbol 0 'b' 1, .symbol 1 'a' 3, .epsilon 1 2] 2).Spells
      ['b', 'a'] := by
    -- the symbol `a` leads to a state that nothing leaves
    intro h
    obtain ⟨r, hr, hrf⟩ := path_iff_arrives.mp h
    obtain ⟨s, -, hs⟩ := arrives_concat_iff (u := ['b']).mp hr
    obtain ⟨-, rfl⟩ : s = 1 ∧ r = 3 := by
      simpa [ofTransitions, Transition.symbol, Transition.epsilon] using hs
    obtain ⟨h, -⟩ := hrf.eq_nil_of_sink (by decide)
    cases h
  obtain ⟨s, hs, ht, hfinal⟩ := (path_or_skips_last (u := ['b']) rfl hskip).1
  exact ⟨hskip, ⟨s, hs, ht, hfinal.resolve_left hbeside⟩, hfirst,
    (path_or_skips_last (u := ['b']) rfl hread).2.1 hfirst⟩

end Automaton

end RegexNfa
