import RegexNfa.Proofs.Exactness
import RegexNfa.Proofs.FragmentDecoding

namespace RegexNfa

inductive Leaves (s : Nat) : List Transition → Prop
  | symbol (c : Char) (u : Nat) : Leaves s [.symbol s c u]
  | epsilon (u : Nat) : Leaves s [.epsilon s u]
  | fork (u v : Nat) : Leaves s [.epsilon s u, .epsilon s v]

theorem Leaves.shifted {s : Nat} {l : List Transition} (h : Leaves s l) (k : Nat) :
    Leaves (s + k) (l.map (·.shifted k)) := by
  cases h with
  | symbol c u => exact .symbol c (u + k)
  | epsilon u => exact .epsilon (u + k)
  | fork u v => exact .fork (u + k) (v + k)

theorem Path.eq_or_exists_target {table : List Transition} {s u : Nat} {w : List Char}
    (h : Path table s w u) : s = u ∨ ∃ t ∈ table, t.target = u := by
  induction h using Path.step_induction with
  | nil => exact .inl rfl
  | step t ht w _ ih =>
    obtain rfl | h := ih
    · exact .inr ⟨t, ht, rfl⟩
    · exact .inr h

theorem path_of_epsilon {table : List Transition} {s u : Nat}
    (h : .epsilon s u ∈ table) : Path table s [] u := .epsilon h (.nil u)

namespace Fragment

/-! ### What leaves a state -/

def Branches (f : Fragment) : Prop := ∀ s < f.final, Leaves s (f.exits s)

theorem filter_shifted_add (f : Fragment) (k s : Nat) :
    (f.shifted k).filter (·.source = s + k) = (f.exits s).map (·.shifted k) := by
  simp [shifted, exits, List.filter_map, Function.comp_def]

theorem exits_of_copy {f g : Fragment} {k : Nat} {l m : List Transition}
    (hg : g.transitions = l ++ f.shifted k ++ m)
    (hout : ∀ t ∈ l ++ m, t.source < k ∨ k + f.final ≤ t.source) {s : Nat} (hs : s < f.final) :
    g.exits (s + k) = (f.exits s).map (·.shifted k) := by
  have hnone : (l ++ m).filter (·.source = s + k) = [] := by
    rw [List.filter_eq_nil_iff]
    intro t ht he
    have := hout t ht
    simp only [decide_eq_true_eq] at he
    omega
  rw [List.filter_append, List.append_eq_nil_iff] at hnone
  rw [exits, hg, List.filter_append, List.filter_append, hnone.1, hnone.2, filter_shifted_add,
    List.nil_append, List.append_nil]

theorem exits_concat_right {a : Fragment} (ha : a.Ends) {b : Fragment} {s : Nat}
    (hs : s < b.final) :
    (concat a b).exits (s + a.final) = (b.exits s).map (·.shifted a.final) := by
  apply exits_of_copy (l := a.transitions) (m := []) (by simp [concat]) _ hs
  intro t ht
  exact .inl (ha t (by simpa using ht))

theorem exits_union_copy_left (a b : Fragment) {s : Nat} (hs : s < a.final) :
    (union a b).exits (s + 1) = (a.exits s).map (·.shifted 1) := by
  apply exits_of_copy (l := [.epsilon 0 1])
    (m := .epsilon a.stateCount (union a b).final :: .epsilon 0 (a.stateCount + 1) ::
      b.shifted (a.stateCount + 1) ++ [.epsilon (a.stateCount + b.stateCount) (union a b).final])
    (by simp [union]) _ hs
  intro t ht
  simp only [stateCount, List.mem_append, List.mem_cons, List.not_mem_nil, or_false] at ht
  rcases ht with rfl | (rfl | rfl | ht) | rfl
  · simp
  · simp [Nat.add_comm]
  · simp
  · have := le_source_of_mem_shifted ht
    omega
  · simp only [Transition.source_epsilon]
    omega

theorem exits_union_copy_right {a : Fragment} (ha : a.Ends) {b : Fragment} {s : Nat}
    (hs : s < b.final) :
    (union a b).exits (s + (a.final + 2)) = (b.exits s).map (·.shifted (a.final + 2)) := by
  apply exits_of_copy
    (l := .epsilon 0 1 :: a.shifted 1 ++
      [.epsilon (a.final + 1) (union a b).final, .epsilon 0 (a.final + 2)])
    (m := [.epsilon (a.stateCount + b.stateCount) (union a b).final])
    (by simp [union, stateCount]) _ hs
  intro t ht
  simp only [stateCount, List.mem_append, List.mem_cons, List.not_mem_nil, or_false] at ht
  rcases ht with ((rfl | ht) | rfl | rfl) | rfl
  · simp
  · have := ha.source_shifted_lt ht
    omega
  · simp
  · simp
  · simp only [Transition.source_epsilon]
    omega

theorem exits_union_last {a b : Fragment} (ha : a.Ends) (hb : b.Ends) :
    (union a b).exits (b.final + (a.final + 2)) =
      [.epsilon (b.final + (a.final + 2)) (union a b).final] := by
  have hout := filter_shifted_of_le ha (k := 1) (s := b.final + (a.final + 2)) (by omega)
  have hout' := filter_shifted_of_le hb (k := a.final + 2) (s := b.final + (a.final + 2)) (by omega)
  have hne : a.final + 1 ≠ b.final + (a.final + 2) := by omega
  have hlast : a.final + 1 + (b.final + 1) = b.final + (a.final + 2) := by omega
  simp [exits, union, stateCount, hout, hout', hne, hlast]

theorem exits_star_copy (a : Fragment) {s : Nat} (hs : s < a.final) :
    (star a).exits (s + 1) = (a.exits s).map (·.shifted 1) := by
  apply exits_of_copy (l := [.epsilon 0 1])
    (m := [.epsilon (a.final + 1) (a.final + 2), .epsilon (a.final + 1) 1,
      .epsilon 0 (a.final + 2)]) rfl _ hs
  intro t ht
  simp only [List.mem_append, List.mem_cons, List.not_mem_nil, or_false] at ht
  rcases ht with rfl | rfl | rfl | rfl <;> simp [Nat.add_comm]

/-! ### The states of a composed fragment -/

theorem state_concat {a b : Fragment} {s : Nat} (hs : s ≤ (concat a b).final) :
    s < a.final ∨ ∃ x ≤ b.final, s = x + a.final := by
  rw [final_concat] at hs
  obtain h | h := Nat.lt_or_ge s a.final
  · exact .inl h
  · exact .inr ⟨s - a.final, by omega, by omega⟩

theorem state_union {a b : Fragment} {s : Nat} (hs : s ≤ (union a b).final) :
    s = 0 ∨ (∃ x ≤ a.final, s = x + 1) ∨ (∃ x ≤ b.final, s = x + (a.final + 2)) ∨
      s = (union a b).final := by
  rw [final_union] at hs ⊢
  obtain h | h | h | h : s = 0 ∨ (1 ≤ s ∧ s ≤ a.final + 1) ∨
      (a.final + 2 ≤ s ∧ s ≤ b.final + (a.final + 2)) ∨ s = a.final + b.final + 3 := by omega
  · exact .inl h
  · exact .inr (.inl ⟨s - 1, by omega, by omega⟩)
  · exact .inr (.inr (.inl ⟨s - (a.final + 2), by omega, by omega⟩))
  · exact .inr (.inr (.inr h))

theorem state_star {a : Fragment} {s : Nat} (hs : s ≤ (star a).final) :
    s = 0 ∨ (∃ x ≤ a.final, s = x + 1) ∨ s = (star a).final := by
  rw [final_star] at hs ⊢
  obtain h | h | h : s = 0 ∨ (1 ≤ s ∧ s ≤ a.final + 1) ∨ s = a.final + 2 := by omega
  · exact .inl h
  · exact .inr (.inl ⟨s - 1, by omega, by omega⟩)
  · exact .inr (.inr h)

theorem branches_literal (c : Char) : (literal c).Branches := by
  intro s hs
  obtain rfl : s = 0 := Nat.lt_one_iff.mp hs
  exact .symbol c 1

theorem branches_epsilon : epsilon.Branches := by
  intro s hs
  obtain rfl : s = 0 := Nat.lt_one_iff.mp hs
  exact .epsilon 1

theorem Branches.concat {a b : Fragment} (he : a.Ends) (ha : a.Branches) (hb : b.Branches) :
    (concat a b).Branches := by
  intro s hs
  obtain hleft | ⟨x, -, rfl⟩ := state_concat (Nat.le_of_lt hs)
  · rw [exits_concat hleft]
    exact ha s hleft
  · have hx : x < b.final := by
      rw [final_concat] at hs
      omega
    rw [exits_concat_right he hx]
    exact (hb x hx).shifted _

theorem Branches.union {a b : Fragment} (he : a.Ends) (he' : b.Ends) (ha : a.Branches)
    (hb : b.Branches) : (union a b).Branches := by
  intro s hs
  obtain rfl | ⟨x, hx, rfl⟩ | ⟨x, hx, rfl⟩ | rfl := state_union (Nat.le_of_lt hs)
  · rw [exits_union_start]
    exact .fork _ _
  · obtain hx | rfl := Nat.lt_or_eq_of_le hx
    · rw [exits_union_copy_left a b hx]
      exact (ha x hx).shifted _
    · rw [exits_union_left he]
      exact .epsilon _
  · obtain hx | rfl := Nat.lt_or_eq_of_le hx
    · rw [exits_union_copy_right he hx]
      exact (hb x hx).shifted _
    · rw [exits_union_last he he']
      exact .epsilon _
  · exact absurd hs (Nat.lt_irrefl _)

theorem Branches.star {a : Fragment} (he : a.Ends) (ha : a.Branches) : (star a).Branches := by
  intro s hs
  obtain rfl | ⟨x, hx, rfl⟩ | rfl := state_star (Nat.le_of_lt hs)
  · rw [exits_star_start]
    exact .fork _ _
  · obtain hx | rfl := Nat.lt_or_eq_of_le hx
    · rw [exits_star_copy a hx]
      exact (ha x hx).shifted _
    · rw [exits_star_last he]
      exact .fork _ _
  · exact absurd hs (Nat.lt_irrefl _)

/-! ### Paths through a state -/

def Crosses (f : Fragment) (s : Nat) : Prop :=
  (∃ v, Path f.transitions 0 v s) ∧ ∃ w, Path f.transitions s w f.final

def Connected (f : Fragment) : Prop := ∀ s ≤ f.final, f.Crosses s

theorem Connected.spells {f : Fragment} (h : f.Connected) : ∃ w, f.Spells w :=
  (h 0 (Nat.zero_le _)).2

theorem crosses_ends {f : Fragment} {w : List Char} (h : f.Spells w) :
    f.Crosses 0 ∧ f.Crosses f.final :=
  ⟨⟨⟨[], .nil 0⟩, w, h⟩, ⟨w, h⟩, [], .nil f.final⟩

theorem Connected.embedded {f g : Fragment} {k : Nat} {v w : List Char} (hf : f.Connected)
    (he : Embeds f k g.transitions) (hin : Path g.transitions 0 v k)
    (hout : Path g.transitions (f.final + k) w g.final) {s : Nat} (hs : s ≤ f.final) :
    g.Crosses (s + k) := by
  obtain ⟨⟨x, hx⟩, y, hy⟩ := hf s hs
  have hbefore := he.path hx
  rw [Nat.zero_add] at hbefore
  exact ⟨⟨_, hin.append hbefore⟩, _, (he.path hy).append hout⟩

theorem connected_of_step {f : Fragment} {t : Transition} (hf : f.final = 1)
    (ht : t ∈ f.transitions) (h : t.source = 0) (h' : t.target = 1) : f.Connected := by
  have hstep : Path f.transitions 0 (t.label.word ++ []) 1 := by
    have hp := Path.step ht (.nil t.target)
    rwa [h, h'] at hp
  intro s hs
  rw [hf] at hs
  unfold Crosses
  rw [hf]
  obtain rfl | rfl := Nat.le_one_iff_eq_zero_or_eq_one.mp hs
  · exact ⟨⟨[], .nil 0⟩, _, hstep⟩
  · exact ⟨⟨_, hstep⟩, [], .nil 1⟩

theorem Connected.concat {a b : Fragment} (hs : a.Sealed) (ha : a.Connected) (hb : b.Connected) :
    (concat a b).Connected := by
  obtain ⟨v, hv⟩ := ha.spells
  obtain ⟨w, hw⟩ := hb.spells
  have hl := (embeds_concat_left (b := b)).path hv
  have hr := (embeds_concat_right hs).path hw
  intro s hs'
  obtain hleft | ⟨x, hx, rfl⟩ := state_concat hs'
  · exact ha.embedded embeds_concat_left (.nil 0) (by simpa [final_concat, Nat.add_comm] using hr) hleft.le
  · exact hb.embedded (embeds_concat_right hs) (by simpa using hl)
      (by simpa [final_concat, Nat.add_comm] using Path.nil _) hx

theorem Connected.union {a b : Fragment} (hs : a.Sealed) (hs' : b.Sealed) (ha : a.Connected)
    (hb : b.Connected) : (union a b).Connected := by
  obtain ⟨w, hw⟩ := ha.spells
  have hends := crosses_ends ((spells_union hs hs' w).mpr (.inl hw))
  intro s hs''
  obtain rfl | ⟨x, hx, rfl⟩ | ⟨x, hx, rfl⟩ | rfl := state_union hs''
  · exact hends.1
  · refine ha.embedded embeds_union_left (path_of_epsilon (mem_union.mpr (.inl rfl))) (path_of_epsilon ?_) hx
    rw [final_union]
    exact mem_union.mpr (.inr (.inr (.inl rfl)))
  · refine hb.embedded (embeds_union_right hs)
      (path_of_epsilon (mem_union.mpr (.inr (.inr (.inr (.inl rfl)))))) (path_of_epsilon ?_) hx
    rw [final_union, show b.final + (a.final + 2) = a.final + b.final + 2 by omega]
    exact mem_union.mpr (.inr (.inr (.inr (.inr (.inr rfl)))))
  · exact hends.2

theorem Connected.star {a : Fragment} (hs : a.Sealed) (ha : a.Connected) : (star a).Connected := by
  have hends := crosses_ends ((spells_star hs []).mpr ⟨[], rfl, by simp⟩)
  intro s hs'
  obtain rfl | ⟨x, hx, rfl⟩ | rfl := state_star hs'
  · exact hends.1
  · exact ha.embedded embeds_star (path_of_epsilon (mem_star.mpr (.inl rfl)))
      (path_of_epsilon (mem_star.mpr (.inr (.inr (.inl rfl))))) hx
  · exact hends.2

structure WellShaped (f : Fragment) : Prop where
  final_pos : 1 ≤ f.final
  mentioned : ∀ s, (∃ t ∈ f.transitions, t.source = s ∨ t.target = s) ↔ s ≤ f.final
  start_not_entered : ∀ t ∈ f.transitions, t.target ≠ 0
  final_not_left : ∀ t ∈ f.transitions, t.source ≠ f.final
  branches : ∀ s ≤ f.final, s ≠ f.final → Leaves s (f.transitions.filter (·.source = s))
  stepwise : ∀ s c u, .symbol s c u ∈ f.transitions → u = s + 1
  nodup : f.transitions.Nodup
  connected : ∀ s ≤ f.final, ∃ v w,
    Path f.transitions 0 v s ∧ Path f.transitions s w f.final

theorem Connected.mentioned {f : Fragment} (hs : f.Sealed) (h : f.Connected) (s : Nat) :
    (∃ t ∈ f.transitions, t.source = s ∨ t.target = s) ↔ s ≤ f.final := by
  constructor
  · rintro ⟨t, ht, rfl | rfl⟩
    · exact (hs.source_lt t ht).le
    · exact hs.target_le t ht
  · intro hle
    obtain ⟨⟨v, hv⟩, w, hw⟩ := h s hle
    obtain ⟨rfl, -⟩ | ⟨t, ht, hsource, -⟩ := hw.first_step
    · obtain hzero | ⟨t, ht, htarget⟩ := hv.eq_or_exists_target
      · exact absurd hs.final_pos (by omega)
      · exact ⟨t, ht, .inr htarget⟩
    · exact ⟨t, ht, .inl hsource⟩

end Fragment

namespace Regex

theorem toFragment_branches (r : Regex) : r.toFragment.Branches := by
  induction r with
  | epsilon => exact Fragment.branches_epsilon
  | symbol c => exact Fragment.branches_literal c
  | concat r s ihr ihs => exact .concat r.toFragment_sealed.ends ihr ihs
  | union r s ihr ihs => exact .union r.toFragment_sealed.ends s.toFragment_sealed.ends ihr ihs
  | star r ih => exact .star r.toFragment_sealed.ends ih

theorem toFragment_connected (r : Regex) : r.toFragment.Connected := by
  induction r with
  | epsilon => exact Fragment.connected_of_step rfl (.head _) rfl rfl
  | symbol c => exact Fragment.connected_of_step rfl (.head _) rfl rfl
  | concat r s ihr ihs => exact .concat r.toFragment_sealed ihr ihs
  | union r s ihr ihs => exact .union r.toFragment_sealed s.toFragment_sealed ihr ihs
  | star r ih => exact .star r.toFragment_sealed ih

theorem toFragment_wellShaped (r : Regex) : r.toFragment.WellShaped where
  final_pos := r.toFragment_sealed.final_pos
  mentioned := r.toFragment_connected.mentioned r.toFragment_sealed
  start_not_entered := fun t ht => (r.toFragment_sealed.target_pos t ht).ne'
  final_not_left := fun t ht => (r.toFragment_sealed.source_lt t ht).ne
  branches := fun s hs hne => r.toFragment_branches s (Nat.lt_of_le_of_ne hs hne)
  stepwise := fun s c u h => r.toFragment_stepwise _ h rfl
  nodup := r.toFragment_nodup
  connected := by
    intro s hs
    obtain ⟨⟨v, hv⟩, w, hw⟩ := r.toFragment_connected s hs
    exact ⟨v, w, hv, hw⟩

end Regex

theorem largestState_le {table : List Transition} {final n : Nat} (hf : final ≤ n)
    (h : ∀ t ∈ table, t.source ≤ n ∧ t.target ≤ n) : largestState table final ≤ n := by
  obtain he | ⟨t, ht, he | he⟩ := largestState_mem table final
  · rwa [he]
  · rw [he]
    exact (h t ht).1
  · rw [he]
    exact (h t ht).2

namespace Automaton

open Search

theorem stateCount_ofFragment {f : Fragment} (h : f.Sealed) :
    (ofFragment f).stateCount = f.stateCount := by
  have hle : largestState f.transitions f.final ≤ f.final :=
    largestState_le (Nat.le_refl _) fun t ht => ⟨(h.source_lt t ht).le, h.target_le t ht⟩
  have hge := final_le_largestState f.transitions f.final
  rw [stateCount_eq, Fragment.stateCount]
  exact congrArg (· + 1) (Nat.le_antisymm hle hge)

theorem total_full_of_nodup {a : Automaton} (h : a.transitions.Nodup) :
    (Budget.full a).total = 2 * a.epsilons.length := by
  have hn : a.epsilons.Nodup := h.filter _
  rw [Budget.total_full, List.toFinset_card_of_nodup hn]

theorem left_full_epsilons {a : Automaton} {t : Transition} (ht : t ∈ a.epsilons) :
    (Budget.full a).left t = 2 := by
  rw [Budget.left_full, if_pos ht]

theorem composed_wellShaped :
    (∀ r : Regex, r.toFragment.WellShaped ∧
      (ofFragment r.toFragment).stateCount = r.toFragment.stateCount) ∧
    ∀ a : Automaton, a.Composed →
      (∀ (i j : Nat) (hi : i < a.transitions.length) (hj : j < a.transitions.length), i ≠ j →
        a.transitions[i] ≠ a.transitions[j] ∧ ∀ budget : Budget,
          (budget.spend a.transitions[i]).left a.transitions[j] = budget.left a.transitions[j]) ∧
      (∀ t ∈ a.epsilons, (Budget.full a).left t = 2) ∧
      (Budget.full a).total = 2 * a.epsilons.length := by
  refine ⟨fun r => ⟨r.toFragment_wellShaped, stateCount_ofFragment r.toFragment_sealed⟩, ?_⟩
  intro a ha
  refine ⟨?_, fun t ht => left_full_epsilons ht, total_full_of_nodup ha.nodup⟩
  intro i j hi hj hne
  have hdiffer : a.transitions[i] ≠ a.transitions[j] :=
    fun he => hne (ha.nodup.getElem_inj_iff.mp he)
  exact ⟨hdiffer, fun budget => Budget.left_spend_of_ne hdiffer.symm⟩

theorem composed_wellShaped_starred :
    ∃ a, compile "(a|b)*" = .ok a ∧ a.Composed ∧
      Transition.epsilon 0 1 ≠ .epsilon 6 7 ∧
      (∀ budget : Budget, (budget.spend (.epsilon 0 1)).left (.epsilon 6 7) =
        budget.left (.epsilon 6 7)) ∧
      .epsilon 6 7 ∈ a.epsilons ∧ (Budget.full a).left (.epsilon 6 7) = 2 ∧
      (Budget.full a).total = 2 * a.epsilons.length := by
  have hc : compile "(a|b)*" = .ok (ofFragment (.star (.union (.literal 'a') (.literal 'b')))) := by
    rfl
  have hm : .epsilon 6 7 ∈ (ofFragment (.star (.union (.literal 'a') (.literal 'b')))).epsilons := by
    decide
  obtain ⟨hshare, hleft, htotal⟩ := composed_wellShaped.2 _ (.compiled hc)
  obtain ⟨hdiffer, hspend⟩ := hshare 0 7 (by decide) (by decide) (by decide)
  exact ⟨_, hc, .compiled hc, hdiffer, hspend, hm, hleft _ hm, htotal⟩

end Automaton

end RegexNfa
