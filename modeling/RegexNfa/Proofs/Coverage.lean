import RegexNfa.Proofs.Paths
import RegexNfa.Proofs.Soundness

/-!
What a run without success has tried. Where no state lists a transition after one that reads the
symbol, every frame is worked off to its end, so the run tries all that leaves the states it has
entered. The only transitions in its way are those that it refused for want of budget and never took
with the same flag.
-/

namespace RegexNfa.Search

def ReadsLast (p : Position) (remaining : List Transition) : Prop :=
  remaining.Pairwise fun t _ => p.reads t.label = false

theorem ReadsLast.eq_nil {p : Position} {t : Transition} {rest : List Transition}
    (h : ReadsLast p (t :: rest)) (hr : p.reads t.label = true) : rest = [] := by
  cases rest with
  | nil => rfl
  | cons u rest =>
    have hn := (List.pairwise_cons.mp h).1 u (.head _)
    rw [hr] at hn
    cases hn

structure TriedAt (p : Position) (l : List Attempt) (f : Bool) (t : Transition) : Prop where
  epsilon : t.isEpsilon = true → .taken t f ∈ l ∨ .refused t f ∈ l
  read : p.reads t.label = true → f = false → .read t ∈ l

def Tried (p : Position) (l : List Attempt) (frame : Frame) : Prop :=
  ∀ t ∈ frame.remaining, TriedAt p l frame.consumed t

def Attempt.entered? (a : Automaton) (p : Position) : Attempt → Option Frame
  | .read t => if p.isInner then none else some (enter a t.target true)
  | .taken t f => some (enter a t.target f)
  | .refused _ _ => none

/-- All that the stack lists has been tried, and all that leaves the states entered on the way. -/
structure Covered (a : Automaton) (p : Position) (stack : List Frame) (l : List Attempt) : Prop where
  stack : ∀ frame ∈ stack, Tried p l frame
  entered : ∀ x ∈ l, ∀ frame, x.entered? a p = some frame → Tried p l frame

variable {a : Automaton} {p : Position} {l : List Attempt} {f : Bool} {t : Transition}

theorem triedAt_of_epsilon (he : t.isEpsilon = true) (h : .taken t f ∈ l ∨ .refused t f ∈ l) :
    TriedAt p l f t := by
  refine ⟨fun _ => h, ?_⟩
  intro hr
  rw [Position.isEpsilon_of_reads hr] at he
  cases he

theorem triedAt_of_reads (hr : p.reads t.label = true) (h : f = false → .read t ∈ l) :
    TriedAt p l f t := by
  refine ⟨?_, fun _ => h⟩
  rw [Position.isEpsilon_of_reads hr]
  intro he
  cases he

theorem Tried.more {frame : Frame} (h : Tried p l frame) (x : Attempt) : Tried p (x :: l) frame :=
  fun t ht => ⟨fun he => ((h t ht).epsilon he).imp (.tail _) (.tail _),
    fun hr hf => .tail _ ((h t ht).read hr hf)⟩

theorem Tried.cons {rest : List Transition} (ht : TriedAt p l f t) (h : Tried p l ⟨rest, f⟩) :
    Tried p l ⟨t :: rest, f⟩ := List.forall_mem_cons.mpr ⟨ht, h⟩

theorem Tried.read_symbol {s u : Nat} {c : Char} (h : Tried p l (enter a s false))
    (hc : p.char? = some c) (ht : .symbol s c u ∈ a.transitions) : .read (.symbol s c u) ∈ l := by
  have hr : p.reads (Transition.symbol s c u).label = true := by
    simp [Position.reads, hc, Transition.symbol]
  exact (h _ (Automaton.mem_outgoing.mpr ⟨ht, rfl⟩)).read hr rfl

theorem tried_nil : Tried p l ⟨[], f⟩ := fun _ ht => nomatch ht

namespace Covered

variable {frame : Frame} {below stack : List Frame}

theorem replace (h : Covered a p stack l) (htop : Tried p l frame) (hbelow : below ⊆ stack) :
    Covered a p (frame :: below) l :=
  ⟨List.forall_mem_cons.mpr ⟨htop, fun g hg => h.stack g (hbelow hg)⟩, h.entered⟩

theorem attempt {x : Attempt} (h : Covered a p stack l)
    (hx : ∀ g, x.entered? a p = some g → g ∈ stack) (htop : Tried p (x :: l) frame)
    (hbelow : below ⊆ stack) : Covered a p (frame :: below) (x :: l) := by
  constructor
  · exact List.forall_mem_cons.mpr ⟨htop, fun g hg => (h.stack g (hbelow hg)).more x⟩
  · intro y hy g hg
    obtain rfl | hy := List.mem_cons.mp hy
    · exact (h.stack g (hx g hg)).more y
    · exact (h.entered y hy g hg).more x

end Covered

theorem Explores.covered {stack : List Frame} {b : Budget} {o : Outcome}
    (h : Explores a p stack b l o) (ho : o.accepted = false)
    (ha : ∀ s, ReadsLast p (a.outgoing s)) (hs : ∀ frame ∈ stack, ReadsLast p frame.remaining) :
    Covered a p stack l := by
  have henter (s : Nat) (f : Bool) : ReadsLast p (enter a s f).remaining := ha s
  -- the attempts are those that are still to come, so what a frame lists is tried by its own steps
  induction h with
  | done => constructor <;> simp
  | readFinal | takeFinal => cases ho
  | leave _ ih =>
    have hc := ih ho (List.forall_mem_cons.mp hs).2
    exact hc.replace tried_nil (List.Subset.refl _)
  | abandon hr _ ih =>
    obtain ⟨htop, hbelow⟩ := List.forall_mem_cons.mp hs
    have hc := ih ho hbelow
    -- nothing is lost with the frame: the symbol that gives it up is its last transition
    obtain rfl := htop.eq_nil hr
    exact hc.replace (tried_nil.cons (triedAt_of_reads hr (by simp))) (List.Subset.refl _)
  | defer hr hinner _ ih =>
    obtain ⟨htop, hbelow⟩ := List.forall_mem_cons.mp hs
    obtain rfl := htop.eq_nil hr
    have hc := ih ho (by simpa [ReadsLast] using hbelow)
    apply hc.attempt (by simp [Attempt.entered?, hinner])
    · exact tried_nil.cons (triedAt_of_reads hr fun _ => .head _)
    · exact List.subset_cons_self _ _
  | read hr hinner _ _ ih =>
    obtain ⟨htop, hbelow⟩ := List.forall_mem_cons.mp hs
    obtain rfl := htop.eq_nil hr
    have hrest : ReadsLast p [] := .nil
    have hc := ih ho (by simpa [henter, hrest] using hbelow)
    apply hc.attempt (by simp [Attempt.entered?, hinner])
    · exact tried_nil.cons (triedAt_of_reads hr fun _ => .head _)
    · exact List.Subset.trans (List.subset_cons_self _ _) (List.subset_cons_self _ _)
  | @take t rest f below b l o he _ _ _ ih =>
    obtain ⟨htop, hbelow⟩ := List.forall_mem_cons.mp hs
    have hrest : ReadsLast p rest := (List.pairwise_cons.mp htop).2
    have hc := ih ho (by simpa [henter, hrest] using hbelow)
    apply hc.attempt (by simp [Attempt.entered?])
    · have hr : Tried p l ⟨rest, f⟩ := hc.stack _ (.tail _ (.head _))
      exact (hr.more _).cons (triedAt_of_epsilon he (.inl (.head _)))
    · exact List.Subset.trans (List.subset_cons_self _ _) (List.subset_cons_self _ _)
  | @refuse t rest f below b l o he _ _ _ ih =>
    obtain ⟨htop, hbelow⟩ := List.forall_mem_cons.mp hs
    have hrest : ReadsLast p rest := (List.pairwise_cons.mp htop).2
    have hc := ih ho (by simpa [hrest] using hbelow)
    apply hc.attempt (by simp [Attempt.entered?])
    · have hr : Tried p l ⟨rest, f⟩ := hc.stack _ (.head _)
      exact (hr.more _).cons (triedAt_of_epsilon he (.inr (.head _)))
    · exact List.subset_cons_self _ _
  | @skip t rest f below b l o hr he _ ih =>
    obtain ⟨htop, hbelow⟩ := List.forall_mem_cons.mp hs
    have hrest : ReadsLast p rest := (List.pairwise_cons.mp htop).2
    have hc := ih ho (by simpa [hrest] using hbelow)
    refine hc.replace ?_ (List.subset_cons_self _ _)
    apply Tried.cons _ (hc.stack _ (.head _))
    exact ⟨by simp [he], by simp [hr]⟩

/-- Refused under a flag and never taken with it. -/
def Starved (l : List Attempt) (f : Bool) (t : Transition) : Prop :=
  .refused t f ∈ l ∧ .taken t f ∉ l

theorem Covered.epsilon {stack : List Frame} (hc : Covered a p stack l)
    (h : Tried p l (enter a t.source f)) (ht : t ∈ a.transitions) (he : t.isEpsilon = true)
    (hn : ¬ Starved l f t) : Tried p l (enter a t.target f) := by
  have htaken : .taken t f ∈ l := by
    by_contra htaken
    obtain h | h := (h t (Automaton.mem_outgoing.mpr ⟨ht, rfl⟩)).epsilon he
    · exact htaken h
    · exact hn ⟨h, htaken⟩
  exact hc.entered _ htaken _ rfl

theorem Covered.path {stack : List Frame} (hc : Covered a p stack l)
    (hn : ∀ t ∈ a.transitions, ¬ Starved l f t) {s u : Nat} {w : List Char}
    (hp : Path a.transitions s w u) (hw : w = []) (h : Tried p l (enter a s f)) :
    Tried p l (enter a u f) :=
  hp.keeps (P := fun s => Tried p l (enter a s f)) hw
    (fun t ht he hs => hc.epsilon hs ht he (hn t ht)) h

end RegexNfa.Search
