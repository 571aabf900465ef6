import RegexNfa.Proofs.Frontier
import Mathlib.Data.Set.Function

/-!
What a search depends on: of the automaton, on the shape of what can be reached from the start; and
before the last symbol, of the text only on what has been read. Two automata whose reachable parts
differ in the names of their states alone are searched in step, name by name.
-/

namespace RegexNfa

def Transition.renamed (g : Nat → Nat) (t : Transition) : Transition :=
  ⟨g t.source, t.label, g t.target⟩

namespace Automaton

def Reachable (a : Automaton) (s : Nat) : Prop := ∃ w, Path a.transitions 0 w s

/-- The part of `a` that can be reached is found in `b` under other names, with the transitions of
each state in the same order. -/
structure Renames (g : Nat → Nat) (a b : Automaton) : Prop where
  injective : Set.InjOn g {s | a.Reachable s ∨ s = a.final}
  start : g 0 = 0
  final : g a.final = b.final
  outgoing : ∀ s, a.Reachable s → b.outgoing (g s) = (a.outgoing s).map (·.renamed g)

theorem Reachable.target {a : Automaton} {t : Transition} (h : a.Reachable t.source)
    (ht : t ∈ a.transitions) : a.Reachable t.target := by
  obtain ⟨w, hw⟩ := h
  exact ⟨w ++ (t.label.word ++ []), hw.append (.step ht (.nil _))⟩

end Automaton

open Automaton

namespace Search

def Frame.renamed (g : Nat → Nat) (frame : Frame) : Frame :=
  ⟨frame.remaining.map (·.renamed g), frame.consumed⟩

def Event.renamed (g : Nat → Nat) : Event → Event
  | .deferred s => .deferred (g s)
  | .refused t => .refused (t.renamed g)

def Frame.Within (a : Automaton) (frame : Frame) : Prop :=
  ∀ t ∈ frame.remaining, t ∈ a.transitions ∧ a.Reachable t.source

def SameUses (g : Nat → Nat) (a : Automaton) (budget budget' : Budget) : Prop :=
  ∀ t ∈ a.transitions, a.Reachable t.source → budget'.left (t.renamed g) = budget.left t

inductive Step.Renamed (g : Nat → Nat) (a : Automaton) : Step → Step → Prop
  | accept (left left' : Budget) : Renamed g a (.accept left) (.accept left')
  | next {stack : List Frame} {budget budget' : Budget} (events : List Event) :
      (∀ frame ∈ stack, frame.Within a) → SameUses g a budget budget' →
        Renamed g a (.next ⟨stack, budget⟩ events)
          (.next ⟨stack.map (·.renamed g), budget'⟩ (events.map (·.renamed g)))

theorem Frame.Within.enter {a : Automaton} {s : Nat} (hs : a.Reachable s) (f : Bool) :
    (enter a s f).Within a := by
  intro t ht
  obtain ⟨htable, rfl⟩ := mem_outgoing.mp ht
  exact ⟨htable, hs⟩

theorem Frame.Within.tail {a : Automaton} {t : Transition} {rest : List Transition} {f g : Bool}
    (h : Frame.Within a ⟨t :: rest, f⟩) : Frame.Within a ⟨rest, g⟩ := fun u hu => h u (.tail _ hu)

section Renames

variable {g : Nat → Nat} {a b : Automaton} {p : Position} {budget budget' : Budget}

theorem enter_renamed (h : Renames g a b) {s : Nat} (hs : a.Reachable s) (f : Bool) :
    enter b (g s) f = (enter a s f).renamed g := by
  rw [enter, h.outgoing s hs]
  rfl

theorem target_eq_final_iff (h : Renames g a b) {t : Transition} (ht : a.Reachable t.target) :
    (t.renamed g).target = b.final ↔ t.target = a.final := by
  rw [← h.final]
  exact h.injective.eq_iff (.inl ht) (.inr rfl)

theorem renamed_eq_iff (h : Renames g a b) {t u : Transition} (ht : t ∈ a.transitions)
    (hts : a.Reachable t.source) (hu : u ∈ a.transitions) (hus : a.Reachable u.source) :
    t.renamed g = u.renamed g ↔ t = u := by
  constructor
  · intro he
    obtain ⟨s, l, v⟩ := t
    obtain ⟨s', l', v'⟩ := u
    simp only [Transition.renamed, Transition.mk.injEq] at he
    obtain ⟨hs, rfl, hv⟩ := he
    obtain rfl : s = s' := h.injective (.inl hts) (.inl hus) hs
    obtain rfl : v = v' := h.injective (.inl (hts.target ht)) (.inl (hus.target hu)) hv
    rfl
  · rintro rfl
    rfl

theorem SameUses.allows (hb : SameUses g a budget budget') {t : Transition}
    (ht : t ∈ a.transitions) (hts : a.Reachable t.source) :
    budget'.allows (t.renamed g) = budget.allows t := by
  rw [Bool.eq_iff_iff, Budget.allows_iff, Budget.allows_iff, hb t ht hts]

theorem SameUses.spend (h : Renames g a b) (hb : SameUses g a budget budget') {t : Transition}
    (ht : t ∈ a.transitions) (hts : a.Reachable t.source) :
    SameUses g a (budget.spend t) (budget'.spend (t.renamed g)) := by
  -- no other transition shares the new name, so no other loses a use
  intro u hu hus
  rw [Budget.left_spend, Budget.left_spend, hb u hu hus]
  simp only [renamed_eq_iff h hu hus ht hts]

theorem sameUses_full (h : Renames g a b) : SameUses g a (Budget.full a) (Budget.full b) := by
  intro t ht hts
  have hout : t.renamed g ∈ b.outgoing (g t.source) := by
    rw [h.outgoing _ hts]
    exact List.mem_map_of_mem (mem_outgoing.mpr ⟨ht, rfl⟩)
  have htable := (mem_outgoing.mp hout).1
  have hepsilon : t.renamed g ∈ b.epsilons ↔ t ∈ a.epsilons := by
    rw [epsilons, epsilons, List.mem_filter, List.mem_filter, and_iff_right ht,
      and_iff_right htable]
    rfl
  simp only [Budget.left_full, hepsilon]

theorem step_renamed (h : Renames g a b) {frame : Frame} {below : List Frame}
    (hs : ∀ x ∈ frame :: below, x.Within a) (hb : SameUses g a budget budget') :
    (step a p frame below budget).Renamed g a
      (step b p (frame.renamed g) (below.map (·.renamed g)) budget') := by
  obtain ⟨hframe, hbelow⟩ := List.forall_mem_cons.mp hs
  obtain ⟨remaining, f⟩ := frame
  cases remaining with
  | nil => exact .next [] hbelow hb
  | cons t rest =>
    obtain ⟨ht, hts⟩ := hframe t (.head _)
    have htarget := hts.target ht
    have hlabel : (t.renamed g).label = t.label := rfl
    have hepsilon : (t.renamed g).isEpsilon = t.isEpsilon := rfl
    have henter (f : Bool) : enter b (t.renamed g).target f = (enter a t.target f).renamed g :=
      enter_renamed h htarget f
    have hrest (f : Bool) : ∀ frame ∈ (⟨rest, f⟩ :: below : List Frame), frame.Within a :=
      List.forall_mem_cons.mpr ⟨hframe.tail, hbelow⟩
    have hpush (e f : Bool) :
        ∀ frame ∈ (enter a t.target e :: ⟨rest, f⟩ :: below : List Frame), frame.Within a :=
      List.forall_mem_cons.mpr ⟨.enter htarget e, hrest f⟩
    -- every test of the step has the same answer on both sides
    simp only [step, attempt, Frame.renamed, List.map_cons, hlabel, hepsilon,
      target_eq_final_iff h htarget, hb.allows ht hts, henter]
    split_ifs
    · exact .next [] hbelow hb
    · exact .accept _ _
    · exact .next [.deferred t.target] (hrest true) hb
    · exact .next [] (hpush true true) hb
    · exact .accept _ _
    · exact .next [] (hpush f f) (.spend h hb ht hts)
    · exact .next [.refused t] (hrest f) hb
    · exact .next [] (hrest f) hb

theorem run_renamed (h : Renames g a b) {stack : List Frame}
    (hs : ∀ frame ∈ stack, frame.Within a) (hb : SameUses g a budget budget') :
    (run b p (stack.map (·.renamed g)) budget').accepted = (run a p stack budget).accepted ∧
      (run b p (stack.map (·.renamed g)) budget').events =
        (run a p stack budget).events.map (·.renamed g) := by
  induction stack, budget using run.induct a p generalizing budget' with
  | case1 budget => simp [run_nil]
  | case2 frame below budget left hstep =>
    have hr := step_renamed (p := p) h hs hb
    rw [hstep] at hr
    generalize hstep' : step b p (frame.renamed g) (below.map (·.renamed g)) budget' = step' at hr
    cases hr
    rw [run_of_accept hstep, List.map_cons, run_of_accept hstep']
    exact ⟨rfl, rfl⟩
  | case3 frame below budget c events hstep ih =>
    have hr := step_renamed (p := p) h hs hb
    rw [hstep] at hr
    generalize hstep' : step b p (frame.renamed g) (below.map (·.renamed g)) budget' = step' at hr
    cases hr with
    | next _ hs hb =>
      obtain ⟨haccepted, hevents⟩ := ih hs hb
      rw [run_of_next hstep, List.map_cons, run_of_next hstep']
      refine ⟨haccepted, ?_⟩
      rw [Outcome.events_after, Outcome.events_after, hevents, List.map_append]

theorem deferred_renamed {o o' : Outcome} (h : o'.events = o.events.map (·.renamed g)) :
    o'.deferred = o.deferred.map g := by
  rw [Outcome.deferred, Outcome.deferred, h, List.filterMap_map, List.map_filterMap]
  refine List.filterMap_congr ?_
  rintro (s | t) - <;> rfl

end Renames

end Search

open Search

namespace Automaton

variable {g : Nat → Nat} {a b : Automaton} {p : Position} {u : List Char}

theorem reachable_of_mem_frontier {s : Nat} (h : s ∈ a.frontier u) : a.Reachable s :=
  ⟨u, (arrives_of_mem_frontier h).path⟩

theorem outcomeAt_renamed (h : Renames g a b) (hu : b.frontier u = (a.frontier u).map g) :
    (b.outcomeAt u p).accepted = (a.outcomeAt u p).accepted ∧
      (b.outcomeAt u p).deferred = (a.outcomeAt u p).deferred.map g := by
  have hroots : roots b (b.frontier u) = (roots a (a.frontier u)).map (·.renamed g) := by
    rw [roots, roots, hu, List.map_map, List.map_map]
    refine List.map_congr_left ?_
    intro s hs
    exact enter_renamed h (reachable_of_mem_frontier hs) false
  have hwithin : ∀ frame ∈ roots a (a.frontier u), frame.Within a :=
    forall_mem_roots fun s hs => .enter (reachable_of_mem_frontier hs) false
  obtain ⟨haccepted, hevents⟩ := run_renamed (p := p) h hwithin (sameUses_full h)
  rw [outcomeAt, outcomeAt, exploreAll_eq_run, exploreAll_eq_run, hroots]
  exact ⟨haccepted, deferred_renamed hevents⟩

theorem frontier_renamed (h : Renames g a b) (u : List Char) :
    b.frontier u = (a.frontier u).map g := by
  induction u using List.reverseRecOn with
  | nil => exact (congrArg (fun s => [s]) h.start).symm
  | append_singleton u c ih =>
    rw [frontier_concat, frontier_concat]
    exact (outcomeAt_renamed h ih).2

theorem acceptsChars_renamed (h : Renames g a b) (w : List Char) :
    a.acceptsChars w = b.acceptsChars w := by
  obtain rfl | ⟨u, c, rfl⟩ := List.eq_nil_or_concat w
  · rw [acceptsChars_nil, acceptsChars_nil]
    exact (outcomeAt_renamed h (frontier_renamed h [])).1.symm
  · rw [List.concat_eq_append, acceptsChars_concat, acceptsChars_concat]
    exact (outcomeAt_renamed h (frontier_renamed h u)).1.symm

/-! ### Tables that differ in the order of their transitions, in names or in what is unreachable -/

theorem renames_id (hfinal : b.final = a.final)
    (hout : ∀ s, a.Reachable s → b.outgoing s = a.outgoing s) : Renames id a b := by
  refine ⟨Set.injOn_id _, rfl, hfinal.symm, ?_⟩
  intro s hs
  exact (hout s hs).trans (List.map_id _).symm

theorem le_largestState_of_path {table : List Transition} {final s v : Nat} {w : List Char}
    (h : Path table s w v) (hs : s ≤ largestState table final) : v ≤ largestState table final := by
  induction h with
  | nil => exact hs
  | epsilon he _ ih => exact ih (endpoints_le_largestState he final).2
  | symbol hc _ ih => exact ih (endpoints_le_largestState hc final).2

theorem Reachable.lt_stateCount {s : Nat} (h : a.Reachable s) : s < a.stateCount := by
  obtain ⟨w, hw⟩ := h
  rw [stateCount_eq]
  exact Nat.lt_succ_of_le (le_largestState_of_path hw (Nat.zero_le _))

theorem renames_map {table : List Transition} {final : Nat}
    (hg : Set.InjOn g {s | s < (ofTransitions table final).stateCount}) (hstart : g 0 = 0) :
    Renames g (ofTransitions table final)
      (ofTransitions (table.map (·.renamed g)) (g final)) := by
  have hfinal : final < (ofTransitions table final).stateCount := by
    rw [stateCount_eq]
    exact Nat.lt_succ_of_le (final_le_largestState table final)
  refine ⟨hg.mono ?_, hstart, rfl, ?_⟩
  · rintro s (hs | rfl)
    · exact hs.lt_stateCount
    · exact hfinal
  · intro s hs
    have hsource : ∀ t ∈ table, decide ((t.renamed g).source = g s) = decide (t.source = s) := by
      intro t ht
      have hlt : t.source < (ofTransitions table final).stateCount := by
        rw [stateCount_eq]
        exact Nat.lt_succ_of_le (endpoints_le_largestState ht final).1
      exact decide_eq_decide.mpr (hg.eq_iff hlt hs.lt_stateCount)
    rw [outgoing_eq, outgoing_eq, ofTransitions, ofTransitions, List.filter_map]
    exact congrArg _ (List.filter_congr hsource)

theorem accepts_eq_of_renames :
    (∀ (g : Nat → Nat) (a b : Automaton), Renames g a b → ∀ w, a.accepts w = b.accepts w) ∧
    (∀ (g : Nat → Nat) (table : List Transition) (final : Nat),
      Set.InjOn g {s | s < (ofTransitions table final).stateCount} → g 0 = 0 → ∀ w,
        (ofTransitions table final).accepts w =
          (ofTransitions (table.map (·.renamed g)) (g final)).accepts w) ∧
    (∀ (table other : List Transition) (final : Nat),
      (∀ s, other.filter (·.source = s) = table.filter (·.source = s)) → ∀ w,
        (ofTransitions table final).accepts w = (ofTransitions other final).accepts w) ∧
    ∀ (before added after : List Transition) (final : Nat),
      (∀ t ∈ added, ¬ (ofTransitions (before ++ after) final).Reachable t.source) → ∀ w,
        (ofTransitions (before ++ after) final).accepts w =
          (ofTransitions (before ++ added ++ after) final).accepts w := by
  refine ⟨?_, ?_, ?_, ?_⟩
  · intro g a b h w
    exact acceptsChars_renamed h w.toList
  · intro g table final hg hstart w
    exact acceptsChars_renamed (renames_map hg hstart) w.toList
  · intro table other final hsame w
    have h : Renames id (ofTransitions table final) (ofTransitions other final) := by
      refine renames_id rfl ?_
      intro s _
      rw [outgoing_eq, outgoing_eq]
      exact hsame s
    exact acceptsChars_renamed h w.toList
  · intro before added after final hadded w
    have h : Renames id (ofTransitions (before ++ after) final)
        (ofTransitions (before ++ added ++ after) final) := by
      refine renames_id rfl ?_
      intro s hs
      have hnone : added.filter (·.source = s) = [] := by
        rw [List.filter_eq_nil_iff]
        intro t ht he
        rw [decide_eq_true_eq] at he
        exact hadded t ht (he ▸ hs)
      simp [outgoing_eq, ofTransitions, hnone]
    exact acceptsChars_renamed h w.toList

theorem accepts_eq_of_renames_tripled :
    Renames (3 * ·) (ofTransitions [.symbol 0 'x' 1, .epsilon 1 0] 1)
        (ofTransitions [.symbol 5 'y' 9, .epsilon 3 0, .symbol 0 'x' 3] 3) ∧
      ∀ w, (ofTransitions [.symbol 0 'x' 1, .epsilon 1 0] 1).accepts w =
        (ofTransitions [.symbol 5 'y' 9, .epsilon 3 0, .symbol 0 'x' 3] 3).accepts w := by
  have h : Renames (3 * ·) (ofTransitions [.symbol 0 'x' 1, .epsilon 1 0] 1)
      (ofTransitions [.symbol 5 'y' 9, .epsilon 3 0, .symbol 0 'x' 3] 3) := by
    refine ⟨fun s _ t _ => Nat.eq_of_mul_eq_mul_left (by decide), rfl, rfl, ?_⟩
    intro s _
    rw [outgoing_eq, outgoing_eq]
    match s with
    | 0 | 1 => rfl
    | s + 2 =>
      have hthree : ¬ 3 = 3 * (s + 2) := by omega
      have hfive : ¬ 5 = 3 * (s + 2) := by omega
      simp [ofTransitions, Transition.symbol, Transition.epsilon, hthree, hfive]
  exact ⟨h, accepts_eq_of_renames.1 _ _ _ h⟩

/-! ### Texts with the same beginning -/

theorem getElem?_sweeps_inner (a : Automaton) {text : List Char} {j : Nat} {c : Char}
    (hj : j + 1 < text.length) (hc : text[j]? = some c) :
    (a.sweeps text)[j]? =
      some ⟨a.frontier (text.take j), a.outcomeAt (text.take j) (.inner c)⟩ := by
  obtain ⟨_, rfl⟩ := List.getElem?_eq_some_iff.mp hc
  rw [a.getElem?_sweeps (Nat.lt_of_succ_lt hj), Position.ofOffset_of_lt hj]

theorem frontier_eq_of_take_eq (a : Automaton) {v w : List Char} {i : Nat}
    (h : v.take i = w.take i) (hv : i < v.length) (hw : i < w.length) :
    (∃ s t, (a.sweeps v)[i]? = some s ∧ (a.sweeps w)[i]? = some t ∧ s.frontier = t.frontier) ∧
      ∀ j < i, ∃ s, (a.sweeps v)[j]? = some s ∧ (a.sweeps w)[j]? = some s ∧
        s.outcome.accepted = false := by
  constructor
  · exact ⟨_, _, a.getElem?_sweeps hv, a.getElem?_sweeps hw, congrArg a.frontier h⟩
  · intro j hj
    have htake : v.take j = w.take j := by
      rw [← Nat.min_eq_left (Nat.le_of_lt hj), ← List.take_take, h, List.take_take]
    have hchar : v[j]? = w[j]? := by simpa [List.getElem?_take, hj] using congrArg (·[j]?) h
    obtain ⟨c, hc⟩ : ∃ c, v[j]? = some c := ⟨_, List.getElem?_eq_getElem (by omega)⟩
    refine ⟨_, a.getElem?_sweeps_inner (by omega) hc, ?_, outcomeAt_not_accepted _ rfl⟩
    rw [a.getElem?_sweeps_inner (by omega) (hchar ▸ hc), htake]

theorem frontier_eq_of_take_eq_starred :
    ['a', 'a', 'b'].take 2 = ['a', 'a', 'a', 'a'].take 2 ∧
      ∃ s t, ((ofFragment (.star (.star (.literal 'a')))).sweeps ['a', 'a', 'b'])[2]? = some s ∧
        ((ofFragment (.star (.star (.literal 'a')))).sweeps ['a', 'a', 'a', 'a'])[2]? = some t ∧
          s.frontier = t.frontier := by
  have h : ['a', 'a', 'b'].take 2 = ['a', 'a', 'a', 'a'].take 2 := rfl
  obtain ⟨hfrontier, -⟩ :=
    frontier_eq_of_take_eq (ofFragment (.star (.star (.literal 'a')))) h (by decide) (by decide)
  exact ⟨h, hfrontier⟩

end Automaton

end RegexNfa
