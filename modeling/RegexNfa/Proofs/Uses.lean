import RegexNfa.Search.Budget
import Mathlib.Data.Finset.Card
import Mathlib.Data.List.Induction

namespace RegexNfa.Search.Budget

def left (budget : Budget) (t : Transition) : Nat := (budget.usesFrom t.source).count t

theorem allows_iff (budget : Budget) (t : Transition) :
    budget.allows t = true ↔ 0 < budget.left t := by
  simp [allows, left, List.count_pos_iff]

theorem left_eq_zero {budget : Budget} {t : Transition} (h : budget.allows t = false) :
    budget.left t = 0 := by
  have hn := (allows_iff budget t).not
  simp only [h, Bool.false_eq_true, not_false_eq_true, true_iff] at hn
  omega

@[simp] theorem left_none (t : Transition) : none.left t = 0 := rfl

theorem left_spend (budget : Budget) (t u : Transition) :
    (budget.spend t).left u = if u = t then budget.left u - 1 else budget.left u := by
  unfold left
  rw [usesFrom_spend]
  by_cases hs : u.source = t.source
  · rw [if_pos hs, List.count_erase]
    by_cases h : u = t
    · simp [h]
    · simp [h, Ne.symm h]
  · have h : u ≠ t := fun h => hs (congrArg _ h)
    rw [if_neg hs, if_neg h]

theorem left_spend_of_ne {budget : Budget} {t u : Transition} (h : u ≠ t) :
    (budget.spend t).left u = budget.left u := by
  rw [left_spend, if_neg h]

theorem left_spend_self {budget : Budget} {t : Transition} (h : budget.allows t = true) :
    (budget.spend t).left t + 1 = budget.left t := by
  have hpos := (allows_iff budget t).mp h
  rw [left_spend, if_pos rfl]
  omega

theorem left_put (budget : Budget) (t u : Transition) :
    (budget.put [t, t] t.source).left u = if u = t then budget.left u + 2 else budget.left u := by
  unfold left
  rw [usesFrom_put]
  by_cases hs : u.source = t.source
  · rw [if_pos hs, List.count_append]
    by_cases h : u = t
    · simp [h, Nat.add_comm]
    · simp [h, Ne.symm h]
  · have h : u ≠ t := fun h => hs (congrArg _ h)
    rw [if_neg hs, if_neg h]

theorem left_grant_of_ne {budget : Budget} {t u : Transition} (h : u ≠ t) :
    (budget.grant t).left u = budget.left u := by
  unfold grant
  split
  · rfl
  · rw [left_put, if_neg h]

theorem left_foldl_grant (table : List Transition) (budget : Budget)
    (hb : ∀ t, budget.left t = 0 ∨ budget.left t = 2) (t : Transition) :
    (table.foldl grant budget).left t = if t ∈ table then 2 else budget.left t := by
  induction table generalizing budget with
  | nil => simp
  | cons u table ih =>
    -- no transition is granted uses twice
    have hu : (budget.grant u).left u = 2 := by
      unfold grant
      split
      · next h =>
        have hpos := (allows_iff budget u).mp h
        rcases hb u with h | h <;> omega
      · next h =>
        rw [left_put, if_pos rfl, left_eq_zero (by simpa using h)]
    have hg : ∀ v, (budget.grant u).left v = 0 ∨ (budget.grant u).left v = 2 := by
      intro v
      by_cases h : v = u
      · exact .inr (h ▸ hu)
      · rw [left_grant_of_ne h]
        exact hb v
    rw [List.foldl_cons, ih _ hg]
    by_cases h : t = u
    · subst h
      simp [hu]
    · simp [h, left_grant_of_ne h]

theorem allows_foldl_grant (table : List Transition) (t : Transition) :
    (table.foldl grant none).allows t = true ↔ t ∈ table := by
  rw [allows_iff, left_foldl_grant table none fun _ => .inl rfl]
  by_cases ht : t ∈ table <;> simp [ht]

theorem left_full (a : Automaton) (t : Transition) :
    (full a).left t = if t ∈ a.epsilons then 2 else 0 :=
  left_foldl_grant a.epsilons .none (fun _ => .inl rfl) t

theorem left_full_of_mem {a : Automaton} {t : Transition} (ht : t ∈ a.transitions)
    (he : t.isEpsilon = true) : (full a).left t = 2 := by
  rw [left_full, if_pos]
  exact List.mem_filter.mpr ⟨ht, he⟩

theorem total_eq (budget : Budget) :
    budget.total = budget.parts.1.length + budget.parts.2.1.total + budget.parts.2.2.total := by
  cases budget <;> rfl

theorem total_put (more : List Transition) (s : Nat) (budget : Budget) :
    (put more s budget).total = more.length + budget.total := by
  fun_induction put more s budget with
  | case1 budget =>
    rw [total, total_eq budget, List.length_append]
    omega
  | case2 budget s hs ih =>
    rw [total, total_eq budget, ih]
    omega
  | case3 budget s hs ih =>
    rw [total, total_eq budget, ih]
    omega

theorem total_full (a : Automaton) : (full a).total = 2 * a.epsilons.toFinset.card := by
  unfold full
  induction a.epsilons using List.reverseRecOn with
  | nil => rfl
  | append_singleton table t ih =>
    have hinsert : (table ++ [t]).toFinset = insert t table.toFinset := by
      ext u
      simp
    rw [List.foldl_append, List.foldl_cons, List.foldl_nil, grant, hinsert]
    split
    · next h =>
      rw [allows_foldl_grant, ← List.mem_toFinset] at h
      rw [ih, Finset.insert_eq_of_mem h]
    · next h =>
      rw [allows_foldl_grant, ← List.mem_toFinset] at h
      rw [total_put, ih, Finset.card_insert_of_notMem h, List.length_cons, List.length_singleton]
      omega

end RegexNfa.Search.Budget
