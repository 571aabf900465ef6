import RegexNfa.Proofs.Starvation
import RegexNfa.Proofs.Exactness

namespace RegexNfa

open Search

namespace Automaton

variable {a : Automaton} {u : List Char} {c : Char}

theorem fed_of_path (hn : ∀ f, ∀ t ∈ a.transitions, ¬ Starved (a.attemptsAt u (.last c)) f t)
    {s : Nat} (h : Path a.transitions 0 (u ++ [c]) s) : a.Fed u c true s := by
  obtain ⟨r, hr, hrs⟩ := path_iff_arrives.mp h
  obtain ⟨t, hpath, hc⟩ := arrives_concat_iff.mp hr
  obtain ⟨x, hx, hxt⟩ := path_iff_arrives.mp hpath
  have hkept (f : Bool) : ∀ t ∈ a.transitions, t.isEpsilon = true →
      a.Fed u c f t.source → a.Fed u c f t.target :=
    fun t ht he hs => hs.epsilon ht he (hn f t ht)
  have hbefore : a.Fed u c false t := hxt.keeps rfl (hkept false) (.arrive hx)
  exact hrs.keeps rfl (hkept true) (.symbol hc hbefore)

theorem accepted_iff_path (ha : Fragment.Unmixed a.transitions)
    (h : (a.outcomeAt u (.last c)).hasRefusal = false) :
    (a.outcomeAt u (.last c)).accepted = true ↔ Path a.transitions 0 (u ++ [c]) a.final := by
  constructor
  · exact path_of_accepted (p := .last c) ha.epsilonsFirst fun f hf => .inr hf
  · intro hp
    apply accepted_of_fed ha
    apply fed_of_path _ hp
    rintro f t - ⟨hrefused, -⟩
    rw [(explores_at a u (.last c)).hasRefusal_iff.mpr ⟨t, f, hrefused⟩] at h
    cases h

theorem accepts_iff_spells_of_not_refused (ha : a.Composed) (text : String) (ht : text ≠ "") :
    ∃ s, (a.sweeps text.toList)[text.length - 1]? = some s ∧
      (s.outcome.hasRefusal = false → (a.accepts text = true ↔ a.Spells text.toList)) := by
  obtain hnil | ⟨u, c, huc⟩ := List.eq_nil_or_concat text.toList
  · exact absurd (String.toList_eq_nil_iff.mp hnil) ht
  rw [List.concat_eq_append] at huc
  have hlen : text.length - 1 = u.length := by simp [← String.length_toList, huc]
  rw [accepts, Spells, huc, hlen]
  refine ⟨_, a.getElem?_sweeps (by simp), ?_⟩
  rw [Position.ofOffset_concat, List.take_left, acceptsChars_concat]
  exact accepted_iff_path ha.unmixed

theorem accepts_iff_spells_of_not_refused_starred :
    ∃ a s, compile "(a|b)*c" = .ok a ∧ "ab" ≠ "" ∧ (a.sweeps "ab".toList)[1]? = some s ∧
      s.outcome.hasRefusal = false ∧ ¬ a.Spells "ab".toList := by
  have hc : compile "(a|b)*c" =
      .ok (ofFragment (.concat (.star (.union (.literal 'a') (.literal 'b'))) (.literal 'c'))) := by
    rfl
  obtain ⟨s, hs, h⟩ := accepts_iff_spells_of_not_refused (.compiled hc) "ab" (by decide)
  have hr : s.outcome.hasRefusal = false := by
    have hr : ((ofFragment (.concat (.star (.union (.literal 'a') (.literal 'b')))
        (.literal 'c'))).sweeps ['a', 'b'])[1]?.map (·.outcome.hasRefusal) = some false := by
      cbv
    have hs' := congrArg (Option.map (·.outcome.hasRefusal)) hs
    exact Option.some.inj (hs'.symm.trans hr)
  have hw : (ofFragment (.concat (.star (.union (.literal 'a') (.literal 'b')))
      (.literal 'c'))).accepts "ab" = false := by
    cbv
  refine ⟨_, s, hc, by decide, hs, hr, ?_⟩
  rw [← h hr, hw]
  simp

end Automaton

end RegexNfa
