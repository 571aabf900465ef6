import RegexNfa.Proofs.Frontier
import Mathlib.Logic.Relation

namespace RegexNfa.Search

def Attempt.taken? : Attempt → Option Transition
  | .taken t _ => some t
  | .read _ | .refused _ _ => none

structure Progress where
  roots : List Nat
  stack : List (Nat × Frame)
  budget : Budget
  created : Nat
  log : List (Nat × Event)
  taken : List Transition

namespace Progress

def start (a : Automaton) (roots : List Nat) : Progress := ⟨roots, [], Budget.full a, 0, [], []⟩

/-- The frames after a step keep their numbers; one that is new is on top. -/
def renumber (fresh : Nat) (stack : List (Nat × Frame)) (frames : List Frame) :
    List (Nat × Frame) :=
  ((fresh :: stack.map Prod.fst).drop (stack.length + 1 - frames.length)).zip frames

def next? (a : Automaton) (p : Position) (s : Progress) : Option Progress :=
  match s.stack, s.roots with
  | [], [] => none
  | [], root :: roots =>
    some { s with
      roots := roots
      stack := [(s.created, enter a root false)]
      created := s.created + 1 }
  | (n, frame) :: below, _ =>
    match step a p frame (below.map Prod.snd) s.budget with
    | .accept _ => none
    | .next c events =>
      some { s with
        stack := renumber s.created s.stack c.stack
        budget := c.budget
        created := s.created + (c.stack.length - s.stack.length)
        log := s.log ++ events.map ((n, ·))
        taken := s.taken ++ ((attempt? p frame s.budget).bind Attempt.taken?).toList }

def Reaches (a : Automaton) (p : Position) : Progress → Progress → Prop :=
  Relation.ReflTransGen fun s t => s.next? a p = some t

def handedOver? : Nat × Event → Option Nat
  | (n, .deferred _) => some n
  | (_, .refused _) => none

def deferring (s : Progress) : List Nat := s.log.filterMap handedOver?

variable {a : Automaton} {p : Position} {s s' : Progress}

theorem renumber_below (fresh : Nat) (x : Nat × Frame) (below : List (Nat × Frame)) :
    renumber fresh (x :: below) (below.map Prod.snd) = below := by
  have hdrop : (x :: below).length + 1 - (below.map Prod.snd).length = 2 := by
    rw [List.length_map, List.length_cons]
    omega
  rw [renumber, hdrop]
  exact (List.zip_of_prod rfl rfl).symm

theorem renumber_top (fresh : Nat) (x : Nat × Frame) (frame : Frame) (below : List (Nat × Frame)) :
    renumber fresh (x :: below) (frame :: below.map Prod.snd) = (x.1, frame) :: below := by
  have hdrop : (x :: below).length + 1 - (frame :: below.map Prod.snd).length = 1 := by
    rw [List.length_cons, List.length_cons, List.length_map]
    omega
  rw [renumber, hdrop]
  exact congrArg _ (List.zip_of_prod rfl rfl).symm

theorem renumber_new (fresh : Nat) (x : Nat × Frame) (new frame : Frame)
    (below : List (Nat × Frame)) :
    renumber fresh (x :: below) (new :: frame :: below.map Prod.snd) =
      (fresh, new) :: (x.1, frame) :: below := by
  have hdrop : (x :: below).length + 1 - (new :: frame :: below.map Prod.snd).length = 0 := by
    rw [List.length_cons, List.length_cons, List.length_cons, List.length_map]
    omega
  rw [renumber, hdrop]
  exact congrArg _ (congrArg _ (List.zip_of_prod rfl rfl).symm)

inductive Advances (a : Automaton) (p : Position) (s : Progress) : Progress → Prop
  | root {root : Nat} {roots : List Nat} : s.stack = [] → s.roots = root :: roots →
      Advances a p s { s with
        roots := roots
        stack := [(s.created, enter a root false)]
        created := s.created + 1 }
  | leave {x : Nat × Frame} {below : List (Nat × Frame)} : s.stack = x :: below →
      Advances a p s { s with stack := below }
  | pass {n : Nat} {t : Transition} {rest : List Transition} {f : Bool}
      {below : List (Nat × Frame)} : s.stack = (n, ⟨t :: rest, f⟩) :: below →
      Advances a p s { s with stack := (n, ⟨rest, f⟩) :: below }
  | refuse {n : Nat} {t : Transition} {rest : List Transition} {f : Bool}
      {below : List (Nat × Frame)} : s.stack = (n, ⟨t :: rest, f⟩) :: below →
      Advances a p s { s with
        stack := (n, ⟨rest, f⟩) :: below
        log := s.log ++ [(n, .refused t)] }
  | defer {n : Nat} {t : Transition} {rest : List Transition} {below : List (Nat × Frame)} :
      p.isInner = true → s.stack = (n, ⟨t :: rest, false⟩) :: below →
      Advances a p s { s with
        stack := (n, ⟨rest, true⟩) :: below
        log := s.log ++ [(n, .deferred t.target)] }
  | read {n : Nat} {t : Transition} {rest : List Transition} {below : List (Nat × Frame)} :
      p.isInner = false → s.stack = (n, ⟨t :: rest, false⟩) :: below →
      Advances a p s { s with
        stack := (s.created, enter a t.target true) :: (n, ⟨rest, true⟩) :: below
        created := s.created + 1 }
  | take {n : Nat} {t : Transition} {rest : List Transition} {f : Bool}
      {below : List (Nat × Frame)} :
      s.budget.allows t = true → s.stack = (n, ⟨t :: rest, f⟩) :: below →
      Advances a p s { s with
        stack := (s.created, enter a t.target f) :: (n, ⟨rest, f⟩) :: below
        budget := s.budget.spend t
        created := s.created + 1
        taken := s.taken ++ [t] }

theorem root_of_next? (hs : s.stack = []) (h : s.next? a p = some s') :
    ∃ root roots, s.roots = root :: roots ∧
      s' = ⟨roots, [(s.created, enter a root false)], s.budget, s.created + 1, s.log, s.taken⟩ := by
  obtain ⟨roots, stack, b, n, log, taken⟩ := s
  subst hs
  cases roots with
  | nil => cases h
  | cons root roots =>
    cases h
    exact ⟨root, roots, rfl, rfl⟩

theorem advances_of_next? (h : s.next? a p = some s') : Advances a p s s' := by
  cases hs : s.stack with
  | nil =>
    obtain ⟨root, roots, hroots, rfl⟩ := root_of_next? hs h
    exact .root hs hroots
  | cons x below =>
    obtain ⟨roots, stack, b, n, log, taken⟩ := s
    subst hs
    obtain ⟨k, remaining, f⟩ := x
    cases remaining with
    | nil =>
      simp [next?, step, attempt?, renumber_below] at h
      subst h
      exact .leave rfl
    | cons t rest =>
      simp only [next?, step, attempt, attempt?] at h
      -- the branches that enter the final state go nowhere and close themselves
      split_ifs at h with hr hf hlast hinner he hlast hallow
      all_goals
        simp [renumber_below, renumber_top, renumber_new, Attempt.taken?] at h
      all_goals subst h
      · exact .leave rfl
      · obtain rfl : f = false := by simpa using hf
        exact .defer hinner rfl
      · obtain rfl : f = false := by simpa using hf
        exact .read (by simpa using hinner) rfl
      · exact .take hallow rfl
      · exact .refuse rfl
      · exact .pass rfl

/-! ### Every exploration comes to an end -/

theorem length_le_of_step {frame : Frame} {below : List Frame} {b : Budget} {c : Config}
    {events : List Event} (h : step a p frame below b = .next c events) :
    c.stack.length ≤ below.length + 2 := by
  obtain ⟨remaining, f⟩ := frame
  cases remaining with
  | nil =>
    cases h
    exact Nat.le_add_right _ _
  | cons t rest =>
    simp only [step, attempt] at h
    split_ifs at h
    all_goals
      cases h
      simp

theorem map_snd_renumber {fresh : Nat} {stack : List (Nat × Frame)} {frames : List Frame}
    (h : frames.length ≤ stack.length + 1) :
    (renumber fresh stack frames).map Prod.snd = frames := by
  apply List.map_snd_zip
  rw [List.length_drop, List.length_cons, List.length_map]
  omega

theorem step_of_next? {x : Nat × Frame} {below : List (Nat × Frame)} (hs : s.stack = x :: below)
    (h : s.next? a p = some s') :
    ∃ c events, step a p x.2 (below.map Prod.snd) s.budget = .next c events ∧ s'.roots = s.roots ∧
      s'.stack.map Prod.snd = c.stack ∧ s'.budget = c.budget ∧
        s'.log.map Prod.snd = s.log.map Prod.snd ++ events := by
  obtain ⟨roots, stack, b, n, log, taken⟩ := s
  subst hs
  simp only [next?] at h
  split at h
  · cases h
  · next c events hstep =>
    cases h
    refine ⟨c, events, hstep, rfl, map_snd_renumber ?_, rfl, by simp⟩
    simpa using length_le_of_step hstep

def config (s : Progress) : Config := ⟨s.stack.map Prod.snd, s.budget⟩

theorem next?_smaller (h : s.next? a p = some s') :
    Prod.Lex (· < ·) Config.Smaller (s'.roots.length, s'.config) (s.roots.length, s.config) := by
  rw [Prod.lex_def]
  cases hs : s.stack with
  | nil =>
    obtain ⟨root, roots, hroots, rfl⟩ := root_of_next? hs h
    exact .inl (by simp [hroots])
  | cons x below =>
    obtain ⟨c, events, hstep, hroots, hstack, hbudget, -⟩ := step_of_next? hs h
    refine .inr ⟨congrArg List.length hroots, ?_⟩
    have hc : s'.config = c := by
      rw [config, hstack, hbudget]
    have hc' : s.config = ⟨x.2 :: below.map Prod.snd, s.budget⟩ := by
      rw [config, hs, List.map_cons]
    rw [hc, hc']
    exact step_smaller hstep

theorem exists_halted (a : Automaton) (p : Position) (s : Progress) :
    ∃ t, Reaches a p s t ∧ t.next? a p = none := by
  have hwf : WellFounded (Prod.Lex (· < · : Nat → Nat → Prop) Config.Smaller) :=
    WellFounded.prod_lex Nat.lt_wfRel.wf (InvImage.wf Config.size WellFoundedRelation.wf)
  induction hs : (s.roots.length, s.config) using hwf.induction generalizing s with
  | _ size ih =>
    cases hn : s.next? a p with
    | none => exact ⟨s, .refl, hn⟩
    | some t =>
      obtain ⟨u, hu, hend⟩ := ih _ (hs ▸ next?_smaller hn) t rfl
      exact ⟨u, .head hn hu, hend⟩

/-! ### The outcome -/

def outcome (a : Automaton) (p : Position) (s : Progress) : Outcome :=
  ((run a p (s.stack.map Prod.snd) s.budget).andThen (exploreAll a p s.roots)).after
    (s.log.map Prod.snd)

theorem outcome_of_next? (h : s.next? a p = some s') : s'.outcome a p = s.outcome a p := by
  cases hs : s.stack with
  | nil =>
    obtain ⟨root, roots, hroots, rfl⟩ := root_of_next? hs h
    simp only [outcome, hs, hroots, List.map_nil, run_nil]
    rfl
  | cons x below =>
    obtain ⟨c, events, hstep, hroots, hstack, hbudget, hlog⟩ := step_of_next? hs h
    simp only [outcome, hs, List.map_cons, run_of_next hstep, Outcome.after_andThen,
      Outcome.after_after, hroots, hstack, hbudget, hlog]

theorem outcome_of_halted (h : s.next? a p = none) :
    (s.outcome a p).events = s.log.map Prod.snd ∧
      ((s.outcome a p).accepted = true ↔ s.stack ≠ []) := by
  obtain ⟨roots, stack, b, n, log, taken⟩ := s
  cases stack with
  | nil =>
    cases roots with
    | nil => simp [outcome, run_nil, Outcome.andThen, exploreAll]
    | cons => cases h
  | cons x below =>
    simp only [next?] at h
    split at h
    · next left hstep =>
      simp [outcome, run_of_accept hstep, Outcome.andThen]
    · cases h

theorem outcome_start (a : Automaton) (p : Position) (roots : List Nat) :
    (start a roots).outcome a p = exploreAll a p roots (Budget.full a) := by
  simp only [outcome, start, List.map_nil, run_nil]
  rfl

theorem Reaches.outcome_eq {t : Progress} (h : Reaches a p s t) :
    t.outcome a p = s.outcome a p := by
  induction h with
  | refl => rfl
  | tail _ hnext ih => rw [outcome_of_next? hnext, ih]

/-- After finitely many steps nothing is left to do, and what has been done amounts to `o`. -/
def Ends (a : Automaton) (p : Position) (s : Progress) (o : Outcome) : Prop :=
  ∃ t, Reaches a p s t ∧ t.next? a p = none ∧ o.events = t.log.map Prod.snd ∧
    (o.accepted = true ↔ t.stack ≠ [])

theorem ends_start (a : Automaton) (p : Position) (roots : List Nat) :
    (start a roots).Ends a p (exploreAll a p roots (Budget.full a)) := by
  obtain ⟨s, hs, hend⟩ := exists_halted a p (start a roots)
  rw [← outcome_start, ← hs.outcome_eq]
  exact ⟨s, hs, hend, outcome_of_halted hend⟩

end Progress

end RegexNfa.Search
