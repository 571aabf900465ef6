import RegexNfa.Proofs.Acceptance

namespace RegexNfa

open Search

namespace Search.Position

theorem not_reads_blank (l : Label) : blank.reads l = false := by
  cases l <;> rfl

theorem readsLast_blank (remaining : List Transition) : ReadsLast .blank remaining :=
  List.pairwise_of_forall fun t _ => not_reads_blank t.label

end Search.Position

namespace Automaton

variable {a : Automaton}

theorem transGen_of_acceptsChars_nil (h : a.acceptsChars [] = true) :
    Relation.TransGen (EpsilonStep a.transitions) 0 a.final := by
  rw [acceptsChars_nil] at h
  have hkept : Kept a .blank (fun _ s => Path a.transitions 0 [] s) (a.attemptsAt [] .blank) := by
    refine ⟨?_, ?_, ?_⟩
    · intro t f _ ht he hs
      exact hs.then_epsilon ht he
    · intro t _ _ hr
      simp [Position.not_reads_blank] at hr
    · intro s t v _ hr
      simp [Position.not_reads_blank] at hr
  obtain ⟨t, ht, htarget, ⟨hr, -⟩ | ⟨he, -, -, hs⟩⟩ :=
    enters_of_accepted hkept (fun s hs => hs.path) h
  · simp [Position.not_reads_blank] at hr
  · rw [← htarget]
    exact .tail' (path_nil_iff.mp hs) (epsilonStep_of_mem ht he)

theorem acceptsChars_nil_of_transGen (h : Relation.TransGen (EpsilonStep a.transitions) 0 a.final) :
    a.acceptsChars [] = true := by
  rw [acceptsChars_nil]
  by_contra ho
  rw [Bool.not_eq_true] at ho
  obtain ⟨s, hs, he⟩ := Relation.TransGen.tail'_iff.mp h
  have hblank : ∀ t : Transition, Position.blank.reads t.label = true →
      Position.blank.isInner = true := by
    intro t ht
    simp [Position.not_reads_blank] at ht
  have htried := tried_of_path (fun _ => Position.readsLast_blank _) hblank ho (.head _)
    (path_nil_iff.mpr hs)
  exact not_final_of_tried htried he rfl rfl rfl

theorem acceptsChars_nil_iff_transGen (a : Automaton) :
    a.acceptsChars [] = true ↔ Relation.TransGen (EpsilonStep a.transitions) 0 a.final :=
  ⟨transGen_of_acceptsChars_nil, acceptsChars_nil_of_transGen⟩

theorem acceptsChars_nil_iff (ha : Fragment.Unmixed a.transitions) (hfinal : a.final ≠ 0) :
    a.acceptsChars [] = true ↔ Path a.transitions 0 [] a.final := by
  refine ⟨path_of_accepts ha, ?_⟩
  intro hp
  obtain h | h := Relation.reflTransGen_iff_eq_or_transGen.mp (path_nil_iff.mp hp)
  · exact absurd h hfinal
  · exact acceptsChars_nil_of_transGen h

end Automaton

theorem Regex.acceptsChars_nil (r : Regex) :
    (Automaton.ofFragment r.toFragment).acceptsChars [] = r.nullable := by
  rw [Bool.eq_iff_iff, ← r.matches_nil_iff, ← r.spells_toFragment]
  exact Automaton.acceptsChars_nil_iff (a := .ofFragment r.toFragment) r.toFragment_unmixed
    (Nat.ne_of_gt r.toFragment_sealed.final_pos)

theorem accepts_empty_iff :
    (∀ a : Automaton, a.accepts "" = true ↔
      Relation.TransGen (EpsilonStep a.transitions) 0 a.final) ∧
    ∀ (e : String) (a : Automaton), compile e = .ok a →
      ∃ r, Expression.Parses e.toList r ∧ isMatch e "" = .ok r.nullable := by
  refine ⟨Automaton.acceptsChars_nil_iff_transGen, ?_⟩
  intro e a h
  obtain ⟨r, hr, ha⟩ := (Expression.compile_eq_ok_iff e a).mp h
  refine ⟨r, hr, ?_⟩
  rw [isMatch, h, ha]
  exact congrArg Except.ok r.acceptsChars_nil

theorem accepts_empty_iff_starred :
    (∃ a, compile "(a*|b)*c*" = .ok a) ∧
      ∃ r, Expression.Parses "(a*|b)*c*".toList r ∧ isMatch "(a*|b)*c*" "" = .ok r.nullable := by
  have hc : compile "(a*|b)*c*" = .ok (.ofFragment (.concat
      (.star (.union (.star (.literal 'a')) (.literal 'b'))) (.star (.literal 'c')))) := by
    rfl
  exact ⟨⟨_, hc⟩, accepts_empty_iff.2 _ _ hc⟩

end RegexNfa
