import RegexNfa.Proofs.Progress

namespace RegexNfa

namespace Search

namespace Progress

theorem Reaches.keeps {P : Progress → Prop} {t : Progress} (h : Reaches a p s t)
    (hstep : ∀ u v, Advances a p u v → P u → P v) (hs : P s) : P t := by
  induction h with
  | refl => exact hs
  | tail _ hnext ih => exact hstep _ _ (advances_of_next? hnext) ih

variable {a : Automaton} {p : Position} {roots : List Nat} {s : Progress}

theorem count_taken (h : Reaches a p (start a roots) s) (t : Transition) :
    s.taken.count t + s.budget.left t = (Budget.full a).left t := by
  refine h.keeps (P := fun s => s.taken.count t + s.budget.left t = _) ?_ (Nat.zero_add _)
  intro u v hadv hu
  cases hadv with
  | root | leave | pass | refuse | defer | read => exact hu
  | @take n w rest f below hallow hstack =>
    simp only [List.count_append, List.count_singleton]
    by_cases hw : w = t
    · subst hw
      have hspent := Budget.left_spend_self hallow
      simp only [BEq.rfl, ↓reduceIte]
      omega
    · rw [Budget.left_spend_of_ne (Ne.symm hw)]
      simpa [hw] using hu

theorem count_taken_le (h : Reaches a p (start a roots) s) (t : Transition) :
    s.taken.count t ≤ 2 := by
  have hcount := count_taken h t
  rw [Budget.left_full] at hcount
  split at hcount <;> omega

theorem created_inner (hp : p.isInner = true) (h : Reaches a p (start a roots) s) :
    s.created + s.roots.length + s.budget.total = roots.length + (Budget.full a).total := by
  refine h.keeps (P := fun s => s.created + s.roots.length + s.budget.total = _) ?_ ?_
  case refine_2 => rw [start, Nat.zero_add]
  intro u v hadv hu
  cases hadv with
  | leave | pass | refuse | defer => exact hu
  | root _ hroots =>
    rw [hroots, List.length_cons] at hu
    simp only
    omega
  | read hinner =>
    rw [hp] at hinner
    cases hinner
  | take hallow =>
    have hspent := Budget.total_spend hallow
    simp only
    omega

def unread (s : Progress) : Nat := s.stack.countP fun x => !x.2.consumed

theorem created_any (h : Reaches a p (start a roots) s) :
    s.created + 2 * s.roots.length + s.unread + 2 * s.budget.total ≤
      2 * (roots.length + (Budget.full a).total) := by
  refine h.keeps
    (P := fun s => s.created + 2 * s.roots.length + s.unread + 2 * s.budget.total ≤ _) ?_ ?_
  case refine_2 =>
    simp only [start, unread, List.countP_nil]
    omega
  intro u v hadv hu
  unfold unread at hu ⊢
  cases hadv with
  | root hstack hroots =>
    rw [hstack, hroots, List.length_cons] at hu
    simp [enter] at hu ⊢
    omega
  | leave hstack =>
    rw [hstack, List.countP_cons] at hu
    simp only
    omega
  | pass hstack | refuse hstack =>
    rw [hstack] at hu
    simpa [List.countP_cons] using hu
  | defer _ hstack =>
    rw [hstack] at hu
    simp at hu ⊢
    omega
  | read _ hstack =>
    -- the frame pays for the one that it enters: neither of them reads again
    rw [hstack] at hu
    simp [enter] at hu ⊢
    omega
  | @take n t rest f below hallow hstack =>
    have hspent := Budget.total_spend hallow
    rw [hstack] at hu
    cases f <;> simp [enter] at hu ⊢ <;> omega

theorem isInner_of_deferring (h : Reaches a p (start a roots) s) (hn : s.deferring ≠ []) :
    p.isInner = true := by
  by_contra hp
  apply hn
  refine h.keeps (P := fun s => s.deferring = []) ?_ rfl
  intro u v hadv hu
  cases hadv with
  | root | leave | pass | read | take => exact hu
  | refuse => simpa [deferring, handedOver?] using hu
  | defer hinner => exact absurd hinner hp

/-- The frames on the stack have numbers of their own, and one that has handed over a state has its
flag set. -/
structure Numbered (stack : List (Nat × Frame)) (created : Nat) (deferring : List Nat) : Prop where
  distinct : (stack.map Prod.fst).Nodup
  lt_created : ∀ x ∈ stack, x.1 < created
  deferring_lt : ∀ n ∈ deferring, n < created
  flagged : ∀ x ∈ stack, x.1 ∈ deferring → x.2.consumed = true
  once : deferring.Nodup

namespace Numbered

variable {stack below : List (Nat × Frame)} {x : Nat × Frame} {created n : Nat}
  {deferring : List Nat} {frame : Frame}

theorem nil : Numbered [] 0 [] := by
  constructor <;> simp

theorem push (h : Numbered stack created deferring) (frame : Frame) :
    Numbered ((created, frame) :: stack) (created + 1) deferring := by
  refine ⟨?_, ?_, ?_, ?_, h.once⟩
  · rw [List.map_cons, List.nodup_cons]
    refine ⟨?_, h.distinct⟩
    intro hc
    obtain ⟨y, hy, he⟩ := List.mem_map.mp hc
    exact absurd (h.lt_created y hy) (by simp [he])
  · rw [List.forall_mem_cons]
    exact ⟨Nat.lt_succ_self _, fun y hy => Nat.lt_succ_of_lt (h.lt_created y hy)⟩
  · exact fun m hm => Nat.lt_succ_of_lt (h.deferring_lt m hm)
  · rw [List.forall_mem_cons]
    exact ⟨fun hc => absurd (h.deferring_lt _ hc) (Nat.lt_irrefl _), h.flagged⟩

theorem pop (h : Numbered (x :: below) created deferring) : Numbered below created deferring :=
  ⟨(List.nodup_cons.mp h.distinct).2, (List.forall_mem_cons.mp h.lt_created).2, h.deferring_lt,
    (List.forall_mem_cons.mp h.flagged).2, h.once⟩

theorem replace (h : Numbered ((n, frame) :: below) created deferring) (frame' : Frame)
    (hf : frame.consumed = true → frame'.consumed = true) :
    Numbered ((n, frame') :: below) created deferring := by
  obtain ⟨htop, hbelow⟩ := List.forall_mem_cons.mp h.flagged
  refine ⟨h.distinct, ?_, h.deferring_lt, ?_, h.once⟩
  · exact List.forall_mem_cons.mpr (List.forall_mem_cons.mp h.lt_created)
  · exact List.forall_mem_cons.mpr ⟨fun hn => hf (htop hn), hbelow⟩

theorem defer (h : Numbered ((n, frame) :: below) created deferring) (frame' : Frame)
    (hf : frame.consumed = false) (hf' : frame'.consumed = true) :
    Numbered ((n, frame') :: below) created (deferring ++ [n]) := by
  obtain ⟨htop, hbelow⟩ := List.forall_mem_cons.mp h.flagged
  have hlt : n < created := (List.forall_mem_cons.mp h.lt_created).1
  have hnew : n ∉ deferring := by
    intro hn
    rw [htop hn] at hf
    cases hf
  have hn : n ∉ below.map Prod.fst := (List.nodup_cons.mp h.distinct).1
  refine ⟨h.distinct, ?_, ?_, ?_, ?_⟩
  · exact List.forall_mem_cons.mpr (List.forall_mem_cons.mp h.lt_created)
  · rw [List.forall_mem_append, List.forall_mem_singleton]
    exact ⟨h.deferring_lt, hlt⟩
  · rw [List.forall_mem_cons]
    refine ⟨fun _ => hf', ?_⟩
    intro x hx hd
    obtain hd | hd := List.mem_append.mp hd
    · exact hbelow x hx hd
    · rw [List.mem_singleton] at hd
      exact absurd (hd ▸ List.mem_map_of_mem hx) hn
  · exact h.once.append (List.nodup_singleton n) (List.disjoint_singleton.mpr hnew)

end Numbered

theorem numbered (h : Reaches a p (start a roots) s) :
    Numbered s.stack s.created s.deferring := by
  refine h.keeps (P := fun s => Numbered s.stack s.created s.deferring) ?_ .nil
  intro u v hadv hu
  cases hadv with
  | root hstack =>
    rw [hstack] at hu
    exact hu.push _
  | leave hstack =>
    rw [hstack] at hu
    exact hu.pop
  | pass hstack =>
    rw [hstack] at hu
    exact hu.replace _ id
  | @refuse n t rest f below hstack =>
    rw [hstack] at hu
    simpa [deferring, handedOver?, List.filterMap_cons] using hu.replace ⟨rest, f⟩ id
  | @defer n t rest below _ hstack =>
    rw [hstack] at hu
    rw [deferring, List.filterMap_append]
    exact hu.defer ⟨rest, true⟩ rfl rfl
  | read _ hstack | take _ hstack =>
    rw [hstack] at hu
    exact (hu.replace _ (by simp)).push _

theorem length_deferring_le (h : Reaches a p (start a roots) s) :
    s.deferring.length ≤ s.created := by
  have hsub : s.deferring ⊆ List.range s.created :=
    fun n hn => List.mem_range.mpr ((numbered h).deferring_lt n hn)
  simpa using ((numbered h).once.subperm hsub).length_le

theorem length_deferring (s : Progress) (o : Outcome) (h : o.events = s.log.map Prod.snd) :
    s.deferring.length = o.deferred.length := by
  rw [deferring, Outcome.deferred, h, List.filterMap_map, List.length_filterMap_eq_countP,
    List.length_filterMap_eq_countP]
  congr 1
  funext x
  obtain ⟨n, e⟩ := x
  cases e <;> rfl

end Progress

theorem exploreAll_deferred_le (a : Automaton) (p : Position) (roots : List Nat) :
    (exploreAll a p roots (Budget.full a)).deferred.length ≤
      roots.length + 2 * a.epsilons.toFinset.card := by
  obtain ⟨s, hs, -, hevents, -⟩ := Progress.ends_start a p roots
  rw [← Progress.length_deferring s _ hevents]
  by_cases hn : s.deferring = []
  · rw [hn]
    exact Nat.zero_le _
  · have hcreated := Progress.created_inner (Progress.isInner_of_deferring hs hn) hs
    have hlength := Progress.length_deferring_le hs
    rw [Budget.total_full] at hcreated
    omega

end Search

open Search

namespace Automaton

theorem length_frontier_le_linear (a : Automaton) (u : List Char) :
    (a.frontier u).length ≤ 1 + 2 * a.epsilons.toFinset.card * u.length := by
  induction u using List.reverseRecOn with
  | nil => exact Nat.le_refl 1
  | append_singleton u c ih =>
    have hnext := exploreAll_deferred_le a (.inner c) (a.frontier u)
    rw [frontier_concat, outcomeAt, List.length_append, List.length_singleton, Nat.mul_succ]
    omega

theorem sweep_bounded {a : Automaton} {text : List Char} {i : Nat} {s : Sweep}
    (h : (a.sweeps text)[i]? = some s) :
    s.outcome = exploreAll a (.ofOffset text i) s.frontier (Budget.full a) ∧
      s.frontier.length ≤ 1 + 2 * a.epsilons.toFinset.card * i ∧
      s.outcome.deferred.length ≤ 1 + 2 * a.epsilons.toFinset.card * (i + 1) := by
  rw [sweeps_eq, List.getElem?_map, Option.map_eq_some_iff] at h
  obtain ⟨j, hj, rfl⟩ := h
  obtain ⟨hi, rfl⟩ := List.getElem?_eq_some_iff.mp hj
  rw [List.getElem_range]
  have htake := Nat.mul_le_mul_left (2 * a.epsilons.toFinset.card) (List.length_take_le i text)
  have hfrontier := length_frontier_le_linear a (text.take i)
  have hdeferred := exploreAll_deferred_le a (.ofOffset text i) (a.frontier (text.take i))
  refine ⟨rfl, hfrontier.trans (Nat.add_le_add_left htake 1), ?_⟩
  rw [Nat.mul_succ]
  simp only [outcomeAt]
  omega

/-- Frames are counted in `created` and told apart by their numbers; `deferring` has the number of the
frame for every state handed over, and `taken` every use of an epsilon transition. -/
theorem search_bounded (a : Automaton) (text : String) :
    (∀ (offset : Nat) (roots : List Nat),
      (Progress.start a roots).Ends a (.ofOffset text.toList offset)
        (exploreAll a (.ofOffset text.toList offset) roots (Budget.full a)) ∧
      ∀ s, Progress.Reaches a (.ofOffset text.toList offset) (.start a roots) s →
        (offset + 1 < text.toList.length →
          s.created ≤ roots.length + 2 * a.epsilons.toFinset.card) ∧
        s.created ≤ 2 * (roots.length + 2 * a.epsilons.toFinset.card) ∧
        (s.stack.map Prod.fst).Nodup ∧ s.deferring.Nodup ∧
        (s.deferring ≠ [] → offset + 1 < text.toList.length) ∧ ∀ t, s.taken.count t ≤ 2) ∧
    (a.sweeps text.toList).length = max 1 text.toList.length ∧
    ∀ i s, (a.sweeps text.toList)[i]? = some s →
      s.outcome = exploreAll a (.ofOffset text.toList i) s.frontier (Budget.full a) ∧
        s.frontier.length ≤ 1 + 2 * a.epsilons.toFinset.card * i ∧
        s.outcome.deferred.length ≤ 1 + 2 * a.epsilons.toFinset.card * (i + 1) := by
  refine ⟨?_, by rw [sweeps_eq, List.length_map, List.length_range], ?_⟩
  · intro offset roots
    refine ⟨Progress.ends_start a _ roots, ?_⟩
    intro s hs
    have hany := Progress.created_any hs
    have hfull := Budget.total_full a
    have hnumbered := Progress.numbered hs
    refine ⟨?_, by omega, hnumbered.distinct, hnumbered.once, ?_, Progress.count_taken_le hs⟩
    · intro hi
      have hinner := Progress.created_inner (Position.isInner_ofOffset_iff.mpr hi) hs
      omega
    · intro hn
      exact Position.isInner_ofOffset_iff.mp (Progress.isInner_of_deferring hs hn)
  · intro i s hs
    exact sweep_bounded hs

end Automaton

end RegexNfa
