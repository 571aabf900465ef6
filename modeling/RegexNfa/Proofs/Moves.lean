import RegexNfa.Proofs.Trails
import RegexNfa.Proofs.Frontier

/-!
Explorations that try nothing twice. Every attempt of a run comes about from a transition pending on
the stack, along a trail. Where a walk can be told from its ends, what comes about from different
pending transitions is different, and so is what one transition leads to from what it competes with.
-/

namespace RegexNfa.Search

structure Move where
  consumed : Bool
  transition : Transition
  deriving DecidableEq

def Attempt.move : Attempt → Move
  | .read t => ⟨false, t⟩
  | .taken t f | .refused t f => ⟨f, t⟩

def moves (stack : List Frame) : List Move :=
  stack.flatMap fun frame => frame.remaining.map (⟨frame.consumed, ·⟩)

variable {a : Automaton} {p : Position}

def Leads (a : Automaton) (p : Position) (x y : Move) : Prop :=
  ∃ ts, Trail a.transitions p x.consumed x.transition.source ts y.consumed y.transition.source ∧
    (ts ++ [y.transition]).head? = some x.transition

inductive Follows (a : Automaton) (p : Position) : Move → Move → Prop
  | epsilon {t u : Transition} {f : Bool} :
      t.isEpsilon = true → u ∈ a.outgoing t.target → Follows a p ⟨f, t⟩ ⟨f, u⟩
  | read {t u : Transition} :
      p.reads t.label = true → u ∈ a.outgoing t.target → Follows a p ⟨false, t⟩ ⟨true, u⟩

theorem Leads.refl (x : Move) : Leads a p x x := ⟨[], .nil _ _, rfl⟩

theorem Follows.trail {x y z : Move} (h : Follows a p x y) (hx : x.transition ∈ a.transitions)
    {ts : List Transition}
    (ht : Trail a.transitions p y.consumed y.transition.source ts z.consumed z.transition.source) :
    Trail a.transitions p x.consumed x.transition.source (x.transition :: ts) z.consumed
      z.transition.source := by
  cases h with
  | epsilon he hu =>
    obtain ⟨-, hs⟩ := Automaton.mem_outgoing.mp hu
    exact .epsilon hx he (hs ▸ ht)
  | read hr hu =>
    obtain ⟨-, hs⟩ := Automaton.mem_outgoing.mp hu
    exact .read hx hr (hs ▸ ht)

theorem Follows.leads {x y z : Move} (h : Follows a p x y) (hx : x.transition ∈ a.transitions)
    (hz : Leads a p y z) : Leads a p x z := by
  obtain ⟨ts, ht, -⟩ := hz
  exact ⟨_, h.trail hx ht, rfl⟩

def Apart (a : Automaton) (p : Position) (x y : Move) : Prop :=
  ∀ z, Leads a p x z → ¬ Leads a p y z

/-- Every move is made once, and comes about from one that was pending. -/
structure Once (a : Automaton) (p : Position) (pending made : List Move) : Prop where
  nodup : made.Nodup
  led : ∀ x ∈ made, ∃ y ∈ pending, Leads a p y x

namespace Once

variable {x : Move} {more pending pending' made : List Move}

theorem nil : Once a p pending [] := ⟨.nil, by simp⟩

theorem mono (h : Once a p pending made) (hsub : pending ⊆ pending') : Once a p pending' made := by
  refine ⟨h.nodup, ?_⟩
  intro y hy
  obtain ⟨z, hz, hl⟩ := h.led y hy
  exact ⟨z, hsub hz, hl⟩

theorem record (more : List Move) (h : Once a p (more ++ pending) made)
    (hx : x.transition ∈ a.transitions)
    (hmore : ∀ y ∈ more, Follows a p x y ∧ ¬ Leads a p y x)
    (hapart : ∀ y ∈ pending, Apart a p x y) : Once a p (x :: pending) (x :: made) := by
  have hnew : x ∉ made := by
    intro hmade
    obtain ⟨y, hy, hl⟩ := h.led x hmade
    obtain hy | hy := List.mem_append.mp hy
    · exact (hmore y hy).2 hl
    · exact hapart y hy x (.refl x) hl
  refine ⟨List.nodup_cons.mpr ⟨hnew, h.nodup⟩, ?_⟩
  rw [List.forall_mem_cons]
  refine ⟨⟨x, .head _, .refl x⟩, ?_⟩
  intro z hz
  obtain ⟨y, hy, hl⟩ := h.led z hz
  obtain hy | hy := List.mem_append.mp hy
  · exact ⟨x, .head _, (hmore y hy).1.leads hx hl⟩
  · exact ⟨y, .tail _ hy, hl⟩

end Once

theorem Follows.apart {x y z : Move} (h : Follows a p x y) (hx : x.transition ∈ a.transitions)
    (hz : Apart a p x z) : Apart a p y z := fun w hw => hz w (h.leads hx hw)

theorem moves_cons (frame : Frame) (below : List Frame) :
    moves (frame :: below) = moves [frame] ++ moves below := by
  simp [moves]

theorem moves_enter {s : Nat} {f : Bool} {x : Move} :
    x ∈ moves [enter a s f] ↔ ∃ t ∈ a.outgoing s, ⟨f, t⟩ = x := by
  simp [moves, enter]

theorem follows_of_epsilon {t : Transition} (he : t.isEpsilon = true) (f : Bool) :
    ∀ y ∈ moves [enter a t.target f], Follows a p ⟨f, t⟩ y := by
  intro y hy
  obtain ⟨u, hu, rfl⟩ := moves_enter.mp hy
  exact .epsilon he hu

theorem follows_of_reads {t : Transition} (hr : p.reads t.label = true) :
    ∀ y ∈ moves [enter a t.target true], Follows a p ⟨false, t⟩ y := by
  intro y hy
  obtain ⟨u, hu, rfl⟩ := moves_enter.mp hy
  exact .read hr hu

theorem Frame.Holds.readsLast {R : Bool → Nat → Prop} {frame : Frame} (h : frame.Holds a R)
    (ha : Fragment.Unmixed a.transitions) (p : Position) : ReadsLast p frame.remaining := by
  obtain ⟨s, hs, -⟩ := h
  exact List.Pairwise.sublist hs (Automaton.readsLast ha p s)

section Deterministic

variable (hd : Deterministic a.transitions) (ha : Fragment.Unmixed a.transitions)
include hd ha

theorem not_leads_of_follows {x y : Move} (h : Follows a p x y)
    (hx : x.transition ∈ a.transitions) : ¬ Leads a p y x := by
  rintro ⟨ts, ht, -⟩
  have := hd.trail_unique ha (h.trail hx ht) (.nil _ _)
  cases this

theorem apart_siblings {s : Nat} {f : Bool} {t u : Transition} (ht : t ∈ a.outgoing s)
    (hu : u ∈ a.outgoing s) (hne : t ≠ u) : Apart a p ⟨f, t⟩ ⟨f, u⟩ := by
  rintro z ⟨ts, hts, hhead⟩ ⟨us, hus, hhead'⟩
  obtain ⟨-, rfl⟩ := Automaton.mem_outgoing.mp ht
  obtain ⟨-, hs⟩ := Automaton.mem_outgoing.mp hu
  obtain rfl := hd.trail_unique ha hts (hs ▸ hus)
  rw [hhead] at hhead'
  exact hne (Option.some.inj hhead')

variable (hn : a.transitions.Nodup)
include hn

theorem pairwise_apart_siblings (s : Nat) (f : Bool) :
    (moves [enter a s f]).Pairwise (Apart a p) := by
  have hout : (a.outgoing s).Nodup := by
    rw [Automaton.outgoing_eq]
    exact hn.filter _
  simp only [moves, List.flatMap_cons, List.flatMap_nil, List.append_nil, enter]
  rw [List.pairwise_map]
  refine hout.imp_of_mem ?_
  intro t u ht hu hne
  exact apart_siblings hd ha ht hu hne

theorem once_of_enter {x : Move} {s : Nat} {f : Bool} {below : List Frame} {made : List Move}
    (hx : x.transition ∈ a.transitions)
    (hmore : ∀ y ∈ moves [enter a s f], Follows a p x y)
    (hp : (x :: moves below).Pairwise (Apart a p))
    (h : (moves (enter a s f :: below)).Pairwise (Apart a p) →
      Once a p (moves (enter a s f :: below)) made) :
    Once a p (x :: moves below) (x :: made) := by
  obtain ⟨hapart, hbelow⟩ := List.pairwise_cons.mp hp
  rw [moves_cons] at h
  have hp' : (moves [enter a s f] ++ moves below).Pairwise (Apart a p) := by
    refine List.pairwise_append.mpr ⟨pairwise_apart_siblings hd ha hn s f, hbelow, ?_⟩
    intro y hy z hz
    exact (hmore y hy).apart hx (hapart z hz)
  refine (h hp').record _ hx ?_ hapart
  intro y hy
  exact ⟨hmore y hy, not_leads_of_follows hd ha (hmore y hy) hx⟩

theorem Explores.once {stack : List Frame} {b : Budget} {l : List Attempt} {o : Outcome}
    (h : Explores a p stack b l o)
    (hs : ∀ frame ∈ stack, frame.Holds a fun _ _ => True)
    (hp : (moves stack).Pairwise (Apart a p)) :
    Once a p (moves stack) (l.map Attempt.move) := by
  have hnil : Frame.Holds a (fun _ _ => True) ⟨[], true⟩ :=
    ⟨0, List.nil_sublist _, fun _ => trivial, fun _ _ _ _ => trivial⟩
  -- what is pending stays apart: a step drops a transition or puts what follows it in its place
  induction h with
  | done | readFinal | takeFinal => exact .nil
  | leave _ ih => exact ih (List.forall_mem_cons.mp hs).2 hp
  | abandon hr _ ih =>
    obtain ⟨htop, hbelow⟩ := List.forall_mem_cons.mp hs
    obtain rfl := (htop.readsLast ha p).eq_nil hr
    obtain ⟨-, hp⟩ := List.pairwise_cons.mp hp
    exact (ih hbelow hp).mono (List.subset_cons_self _ _)
  | defer hr hinner _ ih =>
    obtain ⟨htop, hbelow⟩ := List.forall_mem_cons.mp hs
    obtain rfl := (htop.readsLast ha p).eq_nil hr
    obtain ⟨hapart, hp⟩ := List.pairwise_cons.mp hp
    have ho := ih (List.forall_mem_cons.mpr ⟨hnil, hbelow⟩) hp
    exact ho.record [] htop.mem (by simp) hapart
  | read hr hinner _ _ ih =>
    obtain ⟨htop, hbelow⟩ := List.forall_mem_cons.mp hs
    obtain rfl := (htop.readsLast ha p).eq_nil hr
    have hs' := List.forall_mem_cons.mpr ⟨hnil, hbelow⟩
    exact once_of_enter hd ha hn htop.mem (follows_of_reads hr) hp
      (ih (List.forall_mem_cons.mpr ⟨.enter trivial, hs'⟩))
  | @take t rest f below b l o he _ _ _ ih =>
    obtain ⟨htop, hbelow⟩ := List.forall_mem_cons.mp hs
    have hs' := List.forall_mem_cons.mpr ⟨htop.tail, hbelow⟩
    exact once_of_enter hd ha hn htop.mem (follows_of_epsilon he f) hp
      (ih (List.forall_mem_cons.mpr ⟨.enter trivial, hs'⟩))
  | refuse he _ _ _ ih =>
    obtain ⟨htop, hbelow⟩ := List.forall_mem_cons.mp hs
    obtain ⟨hapart, hp⟩ := List.pairwise_cons.mp hp
    have ho := ih (List.forall_mem_cons.mpr ⟨htop.tail, hbelow⟩) hp
    exact ho.record [] htop.mem (by simp) hapart
  | skip hr he _ ih =>
    obtain ⟨htop, hbelow⟩ := List.forall_mem_cons.mp hs
    obtain ⟨-, hp⟩ := List.pairwise_cons.mp hp
    have ho := ih (List.forall_mem_cons.mpr ⟨htop.tail, hbelow⟩) hp
    exact ho.mono (List.subset_cons_self _ _)

end Deterministic

end RegexNfa.Search
