import RegexNfa.Proofs.Attempts
import RegexNfa.Search.DepthFirst

namespace RegexNfa.Search

namespace Outcome

variable {o : Outcome}

theorem andThen_of_accepted (h : o.accepted = true) (next : Budget → Outcome) :
    o.andThen next = o := by
  simp [andThen, h]

theorem andThen_of_not_accepted (h : ¬ o.accepted = true) (next : Budget → Outcome) :
    o.andThen next = (next o.budget).after o.events := by
  simp [andThen, h]

end Outcome

variable {a : Automaton} {p : Position} {t : Transition} {rest : List Transition} {f : Bool}
  {budget : Budget}

theorem run_cons (frame : Frame) (below : List Frame) (budget : Budget) :
    run a p (frame :: below) budget = (run a p [frame] budget).andThen (run a p below) :=
  run_append a p [frame] below budget

theorem run_read (hr : p.reads t.label = true) (hf : ¬ f = true)
    (hlast : ¬ (t.target = a.final ∧ p.closes true = true)) (hinner : ¬ p.isInner = true) :
    run a p [⟨t :: rest, f⟩] budget =
      (run a p [enter a t.target true] budget).andThen (run a p [⟨rest, true⟩]) := by
  have hstep : step a p ⟨t :: rest, f⟩ [] budget =
      .next ⟨[enter a t.target true, ⟨rest, true⟩], budget⟩ [] := by
    simp [step, attempt, hr, hf, hlast, hinner]
  rw [run_of_next hstep, Outcome.after_nil, run_cons]

theorem run_take (hr : ¬ p.reads t.label = true) (he : t.isEpsilon = true)
    (hlast : ¬ (t.target = a.final ∧ p.closes f = true)) (hallow : budget.allows t = true) :
    run a p [⟨t :: rest, f⟩] budget =
      (run a p [enter a t.target f] (budget.spend t)).andThen (run a p [⟨rest, f⟩]) := by
  have hstep : step a p ⟨t :: rest, f⟩ [] budget =
      .next ⟨[enter a t.target f, ⟨rest, f⟩], budget.spend t⟩ [] := by
    simp [step, attempt, hr, he, hlast, hallow]
  rw [run_of_next hstep, Outcome.after_nil, run_cons]

theorem run_eq_walk (remaining : List Transition) (consumed : Bool) (budget : Budget) :
    run a p [⟨remaining, consumed⟩] budget = (walk a p remaining consumed budget).val := by
  -- one case for each answer of the walk; a child comes twice, as a success and as a failure
  fun_induction walk a p remaining consumed budget with
  | case1 f b => rw [run_of_next rfl, run_nil, Outcome.after_nil]
  | case2 b t rest hr =>
    have hstep : step a p ⟨t :: rest, true⟩ [] b = .next ⟨[], b⟩ [] := by
      simp [step, attempt, hr]
    rw [run_of_next hstep, run_nil, Outcome.after_nil]
  | case3 f b t rest hr hf hlast =>
    exact run_of_accept (by simp [step, attempt, hr, hf, hlast])
  | case4 f b t rest hr hf hlast hinner siblings _ hrest ih =>
    have hstep : step a p ⟨t :: rest, f⟩ [] b =
        .next ⟨[⟨rest, true⟩], b⟩ [.deferred t.target] := by
      simp [step, attempt, hr, hf, hlast, hinner]
    rw [run_of_next hstep, ih, hrest]
  | case5 f b t rest hr hf hlast hinner child _ hchild haccepted ih =>
    rw [run_read hr hf hlast hinner, enter, ih, hchild, Outcome.andThen_of_accepted haccepted]
  | case6 f b t rest hr hf hlast hinner child _ hchild haccepted siblings _ hrest ihc ihr =>
    rw [run_read hr hf hlast hinner, enter, ihc, hchild,
      Outcome.andThen_of_not_accepted haccepted, ihr, hrest]
  | case7 f b t rest hr he hlast =>
    exact run_of_accept (by simp [step, attempt, hr, he, hlast])
  | case8 f b t rest hr he hlast hallow _ child _ hchild haccepted ih =>
    rw [run_take hr he hlast hallow, enter, ih, hchild, Outcome.andThen_of_accepted haccepted]
  | case9 f b t rest hr he hlast hallow _ child _ hchild haccepted siblings _ hrest ihc ihr =>
    rw [run_take hr he hlast hallow, enter, ihc, hchild,
      Outcome.andThen_of_not_accepted haccepted, ihr, hrest]
  | case10 f b t rest hr he hlast hallow siblings _ hrest ih =>
    have hstep : step a p ⟨t :: rest, f⟩ [] b = .next ⟨[⟨rest, f⟩], b⟩ [.refused t] := by
      simp [step, attempt, hr, he, hlast, hallow]
    rw [run_of_next hstep, ih, hrest]
  | case11 f b t rest hr he ih =>
    have hstep : step a p ⟨t :: rest, f⟩ [] b = .next ⟨[⟨rest, f⟩], b⟩ [] := by
      simp [step, attempt, hr, he]
    rw [run_of_next hstep, Outcome.after_nil, ih]

theorem explore_eq_visit (a : Automaton) (text : List Char) (offset root : Nat) (budget : Budget) :
    explore a (.ofOffset text offset) root budget =
      visit a (.ofOffset text offset) root budget :=
  run_eq_walk (a.outgoing root) false budget

end RegexNfa.Search
