import RegexNfa.Proofs.Outgoing
import RegexNfa.Proofs.Uses
import RegexNfa.Search.Sweep

namespace RegexNfa.Search

inductive Attempt where
  | read (t : Transition)
  | taken (t : Transition) (consumed : Bool)
  | refused (t : Transition) (consumed : Bool)
  deriving DecidableEq

/-- A transition that enters the final state stops the search and is no attempt. -/
inductive Explores (a : Automaton) (p : Position) :
    List Frame → Budget → List Attempt → Outcome → Prop
  | done {b : Budget} : Explores a p [] b [] ⟨false, b, []⟩
  | leave {f : Bool} {below : List Frame} {b : Budget} {l : List Attempt} {o : Outcome} :
      Explores a p below b l o → Explores a p (⟨[], f⟩ :: below) b l o
  | abandon {t : Transition} {rest : List Transition} {below : List Frame} {b : Budget}
      {l : List Attempt} {o : Outcome} :
      p.reads t.label = true → Explores a p below b l o →
        Explores a p (⟨t :: rest, true⟩ :: below) b l o
  | readFinal {t : Transition} {rest : List Transition} {below : List Frame} {b : Budget} :
      p.reads t.label = true → t.target = a.final → p.closes true = true →
        Explores a p (⟨t :: rest, false⟩ :: below) b [] ⟨true, b, []⟩
  | defer {t : Transition} {rest : List Transition} {below : List Frame} {b : Budget}
      {l : List Attempt} {o : Outcome} :
      p.reads t.label = true → p.isInner = true →
        Explores a p (⟨rest, true⟩ :: below) b l o →
        Explores a p (⟨t :: rest, false⟩ :: below) b (.read t :: l) (o.after [.deferred t.target])
  | read {t : Transition} {rest : List Transition} {below : List Frame} {b : Budget}
      {l : List Attempt} {o : Outcome} :
      p.reads t.label = true → p.isInner = false → ¬ (t.target = a.final ∧ p.closes true = true) →
        Explores a p (enter a t.target true :: ⟨rest, true⟩ :: below) b l o →
        Explores a p (⟨t :: rest, false⟩ :: below) b (.read t :: l) o
  | takeFinal {t : Transition} {rest : List Transition} {f : Bool} {below : List Frame}
      {b : Budget} :
      t.isEpsilon = true → t.target = a.final → p.closes f = true →
        Explores a p (⟨t :: rest, f⟩ :: below) b [] ⟨true, b, []⟩
  | take {t : Transition} {rest : List Transition} {f : Bool} {below : List Frame} {b : Budget}
      {l : List Attempt} {o : Outcome} :
      t.isEpsilon = true → ¬ (t.target = a.final ∧ p.closes f = true) → b.allows t = true →
        Explores a p (enter a t.target f :: ⟨rest, f⟩ :: below) (b.spend t) l o →
        Explores a p (⟨t :: rest, f⟩ :: below) b (.taken t f :: l) o
  | refuse {t : Transition} {rest : List Transition} {f : Bool} {below : List Frame} {b : Budget}
      {l : List Attempt} {o : Outcome} :
      t.isEpsilon = true → ¬ (t.target = a.final ∧ p.closes f = true) → b.allows t = false →
        Explores a p (⟨rest, f⟩ :: below) b l o →
        Explores a p (⟨t :: rest, f⟩ :: below) b (.refused t f :: l) (o.after [.refused t])
  | skip {t : Transition} {rest : List Transition} {f : Bool} {below : List Frame} {b : Budget}
      {l : List Attempt} {o : Outcome} :
      p.reads t.label = false → t.isEpsilon = false →
        Explores a p (⟨rest, f⟩ :: below) b l o → Explores a p (⟨t :: rest, f⟩ :: below) b l o

def attempt? (p : Position) : Frame → Budget → Option Attempt
  | ⟨[], _⟩, _ => none
  | ⟨t :: _, consumed⟩, budget =>
    if p.reads t.label then if consumed then none else some (.read t)
    else if t.isEpsilon then
      if budget.allows t then some (.taken t consumed) else some (.refused t consumed)
    else none

def attempts (a : Automaton) (p : Position) : List Frame → Budget → List Attempt
  | [], _ => []
  | frame :: below, budget =>
    match _h : step a p frame below budget with
    | .accept _ => []
    | .next c _ => (attempt? p frame budget).toList ++ attempts a p c.stack c.budget
  termination_by stack budget => Config.size ⟨stack, budget⟩
  decreasing_by exact step_smaller _h

theorem attempts_nil (a : Automaton) (p : Position) (budget : Budget) :
    attempts a p [] budget = [] := by
  rw [attempts]

theorem attempts_of_accept {a : Automaton} {p : Position} {frame : Frame} {below : List Frame}
    {budget left : Budget} (h : step a p frame below budget = .accept left) :
    attempts a p (frame :: below) budget = [] := by
  rw [attempts]
  split <;> simp_all

theorem attempts_of_next {a : Automaton} {p : Position} {frame : Frame} {below stack : List Frame}
    {budget left : Budget} {events : List Event}
    (h : step a p frame below budget = .next ⟨stack, left⟩ events) :
    attempts a p (frame :: below) budget =
      (attempt? p frame budget).toList ++ attempts a p stack left := by
  rw [attempts]
  split <;> simp_all

theorem Position.isEpsilon_of_reads {p : Position} {t : Transition} (h : p.reads t.label = true) :
    t.isEpsilon = false := by
  obtain ⟨s, l, u⟩ := t
  cases l with
  | epsilon => simp [reads] at h
  | symbol c => rfl

theorem Position.eq_symbol_of_reads {p : Position} {t : Transition} {c : Char}
    (hc : p.char? = some c) (h : p.reads t.label = true) : t = .symbol t.source c t.target := by
  obtain ⟨s, l, x⟩ := t
  cases l with
  | epsilon => simp [reads] at h
  | symbol d =>
    simp only [reads, hc, beq_iff_eq, Option.some.injEq] at h
    rw [h]
    rfl

theorem Position.exists_char_of_reads {p : Position} {t : Transition} (h : p.reads t.label = true) :
    ∃ c, p.char? = some c := by
  cases hc : p.char? with
  | none => cases hl : t.label <;> simp [reads, hc, hl] at h
  | some c => exact ⟨c, rfl⟩

theorem Position.closes_of_isInner {p : Position} (h : p.isInner = true) (f : Bool) :
    p.closes f = false := by
  cases p <;> simp_all [isInner, closes]

theorem explores_run (a : Automaton) (p : Position) (stack : List Frame) (budget : Budget) :
    Explores a p stack budget (attempts a p stack budget) (run a p stack budget) := by
  induction stack, budget using run.induct a p with
  | case1 b =>
    rw [run_nil, attempts_nil]
    exact .done
  | case2 frame below b left h =>
    rw [run_of_accept h, attempts_of_accept h]
    obtain ⟨remaining, f⟩ := frame
    cases remaining with
    | nil => cases h
    | cons t rest =>
      simp only [step, attempt] at h
      split_ifs at h with hr hf hlast hinner he hlast hallow
      · obtain rfl : f = false := by simpa using hf
        cases h
        exact .readFinal hr hlast.1 hlast.2
      · cases h
        exact .takeFinal he hlast.1 hlast.2
  | case3 frame below b c events h ih =>
    rw [run_of_next h, attempts_of_next h]
    obtain ⟨remaining, f⟩ := frame
    cases remaining with
    | nil =>
      cases h
      exact .leave ih
    | cons t rest =>
      simp only [step, attempt] at h
      split_ifs at h with hr hf hlast hinner he hlast hallow
      all_goals cases h
      · subst hf
        simpa [attempt?, hr] using Explores.abandon hr ih
      · obtain rfl : f = false := by simpa using hf
        simpa [attempt?, hr] using Explores.defer hr hinner ih
      · obtain rfl : f = false := by simpa using hf
        simpa [attempt?, hr] using Explores.read hr (by simpa using hinner) hlast ih
      · simpa [attempt?, hr, he, hallow] using Explores.take he hlast hallow ih
      · have hallow : b.allows t = false := by simpa using hallow
        simpa [attempt?, hr, he, hallow] using Explores.refuse he hlast hallow ih
      · have hr : p.reads t.label = false := by simpa using hr
        have he : t.isEpsilon = false := by simpa using he
        simpa [attempt?, hr, he] using Explores.skip hr he ih

def Attempt.event? (p : Position) : Attempt → Option Event
  | .read t => if p.isInner then some (.deferred t.target) else none
  | .taken _ _ => none
  | .refused t _ => some (.refused t)

namespace Explores

variable {a : Automaton} {p : Position} {stack : List Frame} {b : Budget} {l : List Attempt}
  {o : Outcome}

theorem events_eq (h : Explores a p stack b l o) : o.events = l.filterMap (Attempt.event? p) := by
  induction h with
  | done | readFinal | takeFinal => rfl
  | leave _ ih | abandon _ _ ih | skip _ _ _ ih => exact ih
  | defer _ hinner _ ih => simp [Attempt.event?, hinner, ih]
  | read _ hinner _ _ ih => simp [Attempt.event?, hinner, ih]
  | take _ _ _ _ ih =>
    rw [ih]
    rfl
  | refuse _ _ _ _ ih => simp [Attempt.event?, ih]

theorem mem_deferred (h : Explores a p stack b l o) (hp : p.isInner = true) (s : Nat) :
    s ∈ o.deferred ↔ ∃ t, .read t ∈ l ∧ t.target = s := by
  rw [Outcome.deferred, h.events_eq, List.filterMap_filterMap, List.mem_filterMap]
  constructor
  · rintro ⟨x, hx, he⟩
    cases x with
    | read t =>
      simp only [Attempt.event?, hp, ↓reduceIte, Option.bind_some, Option.some.injEq] at he
      exact ⟨t, hx, he⟩
    | taken => cases he
    | refused => cases he
  · rintro ⟨t, ht, rfl⟩
    exact ⟨_, ht, by simp [Attempt.event?, hp]⟩

theorem hasRefusal_iff (h : Explores a p stack b l o) :
    o.hasRefusal = true ↔ ∃ t f, .refused t f ∈ l := by
  rw [Outcome.hasRefusal, h.events_eq, List.any_filterMap, List.any_eq_true]
  constructor
  · rintro ⟨x, hx, he⟩
    cases x with
    | read t => cases hp : p.isInner <;> simp [Attempt.event?, hp] at he
    | taken => cases he
    | refused t f => exact ⟨t, f, hx⟩
  · rintro ⟨t, f, ht⟩
    exact ⟨_, ht, rfl⟩

theorem accepted_of_isInner (h : Explores a p stack b l o) (hp : p.isInner = true) :
    o.accepted = false := by
  induction h with
  | done => rfl
  | leave _ ih | abandon _ _ ih | skip _ _ _ ih => exact ih
  | readFinal _ _ hc | takeFinal _ _ hc => simp [Position.closes_of_isInner hp] at hc
  | defer _ _ _ ih | read _ _ _ _ ih | take _ _ _ _ ih | refuse _ _ _ _ ih => exact ih

theorem left_eq (h : Explores a p stack b l o) (t : Transition) :
    b.left t = o.budget.left t + l.countP fun x => x = .taken t false ∨ x = .taken t true := by
  induction h with
  | done | readFinal | takeFinal => rfl
  | leave _ ih | abandon _ _ ih | skip _ _ _ ih => exact ih
  | defer _ _ _ ih | read _ _ _ _ ih | refuse _ _ _ _ ih => simpa using ih
  | @take u rest f below b l o _ _ hb _ ih =>
    by_cases hu : t = u
    · subst hu
      have hspent := Budget.left_spend_self hb
      rw [List.countP_cons_of_pos (by cases f <;> simp)]
      omega
    · rw [Budget.left_spend_of_ne hu] at ih
      rw [List.countP_cons_of_neg (by simp [Ne.symm hu])]
      exact ih

theorem left_of_refused (h : Explores a p stack b l o) {t : Transition} {f : Bool}
    (ht : .refused t f ∈ l) : o.budget.left t = 0 := by
  induction h with
  | done | readFinal | takeFinal => cases ht
  | leave _ ih | abandon _ _ ih | skip _ _ _ ih => exact ih ht
  | defer _ _ _ ih | read _ _ _ _ ih | take _ _ _ _ ih =>
    obtain h | ht := List.mem_cons.mp ht
    · cases h
    · exact ih ht
  | refuse _ _ hb h ih =>
    obtain he | ht := List.mem_cons.mp ht
    · cases he
      have hl := h.left_eq t
      rw [Budget.left_eq_zero hb] at hl
      simp only [Outcome.budget_after]
      omega
    · exact ih ht

theorem taken_of_refused (h : Explores a p stack b l o) {t : Transition} {f : Bool}
    (ht : .refused t f ∈ l) (hb : 0 < b.left t) : ∃ g, .taken t g ∈ l := by
  have hl := h.left_eq t
  rw [h.left_of_refused ht, Nat.zero_add] at hl
  rw [hl, List.countP_pos_iff] at hb
  obtain ⟨x, hx, he⟩ := hb
  simp only [decide_eq_true_eq] at he
  obtain rfl | rfl := he
  · exact ⟨false, hx⟩
  · exact ⟨true, hx⟩

end Explores

namespace Step

def above (bottom : List Frame) : Step → Step
  | .accept budget => .accept budget
  | .next c events => .next ⟨c.stack ++ bottom, c.budget⟩ events

end Step

theorem step_append (a : Automaton) (p : Position) (frame : Frame) (below bottom : List Frame)
    (budget : Budget) :
    step a p frame (below ++ bottom) budget = (step a p frame below budget).above bottom := by
  obtain ⟨remaining, f⟩ := frame
  cases remaining with
  | nil => rfl
  | cons t rest =>
    simp only [step, attempt]
    split_ifs <;> rfl

theorem run_append (a : Automaton) (p : Position) (stack bottom : List Frame) (budget : Budget) :
    run a p (stack ++ bottom) budget = (run a p stack budget).andThen (run a p bottom) := by
  induction stack, budget using run.induct a p with
  | case1 b =>
    rw [run_nil]
    rfl
  | case2 frame below b left h =>
    have h' := step_append a p frame below bottom b
    rw [h] at h'
    rw [run_of_accept h, List.cons_append, run_of_accept h']
    rfl
  | case3 frame below b c events h ih =>
    have h' := step_append a p frame below bottom b
    rw [h] at h'
    rw [run_of_next h, List.cons_append, run_of_next h', ih, Outcome.after_andThen]

def roots (a : Automaton) (frontier : List Nat) : List Frame := frontier.map (enter a · false)

theorem forall_mem_roots {a : Automaton} {P : Frame → Prop} {states : List Nat}
    (h : ∀ s ∈ states, P (enter a s false)) : ∀ frame ∈ roots a states, P frame := by
  intro frame hf
  obtain ⟨s, hs, rfl⟩ := List.mem_map.mp hf
  exact h s hs

theorem exploreAll_eq_run (a : Automaton) (p : Position) (frontier : List Nat) (budget : Budget) :
    exploreAll a p frontier budget = run a p (roots a frontier) budget := by
  induction frontier generalizing budget with
  | nil => exact (run_nil a p budget).symm
  | cons root frontier ih =>
    have hr := run_append a p [enter a root false] (roots a frontier) budget
    rw [List.singleton_append] at hr
    rw [exploreAll, roots, List.map_cons, ← roots, hr, funext ih]
    rfl

end RegexNfa.Search
