import RegexNfa.Proofs.EmptyText

/-!
False rejects. The uses of an epsilon transition are shared by all that is explored at the last
offset, before and after the last symbol, so that a transition can be starved there: refused under a
flag with which it is never taken. A word of the language is accepted if and only if one of its
paths needs no starved transition.
-/

namespace RegexNfa

open Search

namespace Automaton

/-- Where a path can be at the last offset that needs no starved transition there, the flag telling
whether the last symbol has been read. -/
inductive Fed (a : Automaton) (u : List Char) (c : Char) : Bool → Nat → Prop
  | arrive {s : Nat} : a.Arrives u s → Fed a u c false s
  | epsilon {t : Transition} {f : Bool} : t ∈ a.transitions → t.isEpsilon = true →
      ¬ Starved (a.attemptsAt u (.last c)) f t → Fed a u c f t.source → Fed a u c f t.target
  | symbol {s t : Nat} : .symbol s c t ∈ a.transitions → Fed a u c false s → Fed a u c true t

variable {a : Automaton} {u : List Char} {p : Position} {c : Char}

theorem sound_at (ha : Fragment.Unmixed a.transitions) :
    ∀ x ∈ a.attemptsAt u p, x.Sound a p (Reads a u p) := by
  refine ((explores_at a u p).sound (forall_mem_roots fun s hs => .enter ?_) (kept_reads ha.epsilonsFirst _)).1
  exact (arrives_of_mem_frontier hs).path

theorem tried_of_fed (ha : Fragment.Unmixed a.transitions)
    (ho : (a.outcomeAt u (.last c)).accepted = false) {f : Bool} {s : Nat} (h : a.Fed u c f s) :
    Tried (.last c) (a.attemptsAt u (.last c)) (enter a s f) := by
  have hcover := covered_at (readsLast ha _) ho
  induction h with
  | arrive hs => exact tried_root (readsLast ha _) ho (mem_frontier_of_arrives ha hs)
  | epsilon ht he hn _ ih => exact hcover.epsilon ih ht he hn
  | symbol ht _ ih => exact hcover.entered _ (ih.read_symbol rfl ht) _ rfl

theorem accepted_of_fed (ha : Fragment.Unmixed a.transitions) (h : a.Fed u c true a.final) :
    (a.outcomeAt u (.last c)).accepted = true := by
  by_contra ho
  rw [Bool.not_eq_true] at ho
  generalize hs : a.final = s at h
  cases h with
  | epsilon ht he _ h => exact not_final_of_tried (tried_of_fed ha ho h) ht he rfl hs.symm
  | symbol ht h =>
    have hread := (tried_of_fed ha ho h).read_symbol rfl ht
    obtain ⟨-, -, -, hn⟩ := sound_at ha _ hread
    exact hn ⟨hs.symm, rfl⟩

theorem kept_fed (ha : Fragment.Unmixed a.transitions) :
    Kept a (.last c) (a.Fed u c) (a.attemptsAt u (.last c)) := by
  refine ⟨?_, ?_, ?_⟩
  · intro t f htaken ht he hs
    exact hs.epsilon ht he fun hn => hn.2 htaken
  · intro t _ ht hr _ hs
    rw [Position.eq_symbol_of_reads rfl hr] at ht
    exact hs.symbol ht
  · intro s t v hsub hr _ _
    rw [no_sibling (readsLast ha _) hsub] at hr
    cases hr

theorem fed_of_accepted (ha : Fragment.Unmixed a.transitions)
    (h : (a.outcomeAt u (.last c)).accepted = true) : a.Fed u c true a.final := by
  obtain ⟨t, ht, htarget, ⟨hr, -, hs⟩ | ⟨he, f, hf, hs⟩⟩ :=
    enters_of_accepted (kept_fed ha) (fun s hs => .arrive hs) h
  · rw [Position.eq_symbol_of_reads rfl hr, htarget] at ht
    exact hs.symbol ht
  · obtain rfl : f = true := hf
    rw [← htarget]
    apply Fed.epsilon ht he _ hs
    -- the transition that ends the search is never refused
    rintro ⟨hrefused, -⟩
    obtain ⟨-, -, -, hn⟩ := sound_at ha _ hrefused
    exact hn ⟨htarget, rfl⟩

end Automaton

theorem final_compiled {e : String} {a : Automaton} (h : compile e = .ok a) : a.final ≠ 0 := by
  obtain ⟨r, -, rfl⟩ := (Expression.compile_eq_ok_iff e a).mp h
  exact Nat.ne_of_gt r.toFragment_sealed.final_pos

theorem isMatch_iff_fed {e : String} {a : Automaton} (h : compile e = .ok a) (w : String) :
    isMatch e w = .ok true ↔ Expression.Denotes e.toList w.toList ∧
      ∀ u c, w.toList = u ++ [c] → a.Fed u c true a.final := by
  have ha := unmixed_compiled h
  have haccepts : isMatch e w = .ok true ↔ a.acceptsChars w.toList = true := by
    simp [isMatch, h, Automaton.accepts]
  rw [haccepts]
  constructor
  · intro hw
    refine ⟨denotes_of_accepts h hw, ?_⟩
    intro u c huc
    rw [huc, Automaton.acceptsChars_concat] at hw
    exact Automaton.fed_of_accepted ha hw
  · rintro ⟨hw, hfed⟩
    obtain hnil | ⟨u, c, huc⟩ := List.eq_nil_or_concat w.toList
    · rw [hnil] at hw ⊢
      exact (Automaton.acceptsChars_nil_iff ha (final_compiled h)).mpr ((spells_compiled h []).mpr hw)
    · rw [List.concat_eq_append] at huc
      rw [huc, Automaton.acceptsChars_concat]
      exact Automaton.accepted_of_fed ha (hfed u c huc)

theorem isMatch_iff_fed_starred :
    compile "(a|b)*" = .ok (.ofFragment (.star (.union (.literal 'a') (.literal 'b')))) ∧
      ∀ u c, "ab".toList = u ++ [c] →
        (Automaton.ofFragment (.star (.union (.literal 'a') (.literal 'b')))).Fed u c true 7 := by
  have h : compile "(a|b)*" = .ok (.ofFragment (.star (.union (.literal 'a') (.literal 'b')))) := by
    rfl
  have hw : isMatch "(a|b)*" "ab" = .ok true := by
    rw [isMatch, h]
    cbv
  exact ⟨h, ((isMatch_iff_fed h "ab").mp hw).2⟩

theorem isMatch_nested_stars :
    (∃ a, compile "((a*|b)*)*" = .ok a) ∧ Expression.Denotes "((a*|b)*)*".toList "b".toList ∧
      isMatch "((a*|b)*)*" "b" = .ok false := by
  have hparse : Expression.Parses "((a*|b)*)*".toList
      (.star (.star (.union (.star (.symbol 'a')) (.symbol 'b')))) := by
    apply (Expression.parse_eq_ok_iff _ _).mp
    rfl
  have hb : Regex.Matches (.star (.union (.star (.symbol 'a')) (.symbol 'b'))) ['b'] :=
    .star_append (.right (.symbol 'b')) .star_nil
  have hc : compile "((a*|b)*)*" = .ok (.ofFragment
      (.star (.star (.union (.star (.literal 'a')) (.literal 'b'))))) :=
    (Expression.compile_eq_ok_iff _ _).mpr ⟨_, hparse, rfl⟩
  refine ⟨⟨_, hc⟩, ⟨_, hparse, .star_append hb .star_nil⟩, ?_⟩
  rw [isMatch, hc]
  cbv

end RegexNfa
