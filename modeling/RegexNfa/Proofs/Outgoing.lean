import RegexNfa.Automaton.Basic
import RegexNfa.Proofs.FragmentShape

namespace RegexNfa

theorem largestState_cons (t : Transition) (table : List Transition) (final : Nat) :
    largestState (t :: table) final = largestState table (max final (max t.source t.target)) := rfl

theorem final_le_largestState (table : List Transition) (final : Nat) :
    final ≤ largestState table final := by
  induction table generalizing final with
  | nil => exact Nat.le_refl _
  | cons t table ih =>
    have h := ih (max final (max t.source t.target))
    rw [largestState_cons]
    omega

theorem endpoints_le_largestState {table : List Transition} {t : Transition} (ht : t ∈ table)
    (final : Nat) : t.source ≤ largestState table final ∧ t.target ≤ largestState table final := by
  induction table generalizing final with
  | nil => simp at ht
  | cons u table ih =>
    rw [largestState_cons]
    obtain rfl | ht := List.mem_cons.mp ht
    · have h := final_le_largestState table (max final (max t.source t.target))
      omega
    · exact ih ht _

theorem largestState_mem (table : List Transition) (final : Nat) :
    largestState table final = final ∨
      ∃ t ∈ table, largestState table final = t.source ∨ largestState table final = t.target := by
  induction table generalizing final with
  | nil => exact .inl rfl
  | cons t table ih =>
    rw [largestState_cons]
    obtain he | ⟨u, hu, he⟩ := ih (max final (max t.source t.target))
    · rw [he]
      have hmax : max final (max t.source t.target) = final ∨
          max final (max t.source t.target) = t.source ∨
            max final (max t.source t.target) = t.target := by omega
      exact hmax.imp_right fun h => ⟨t, .head _, h⟩
    · exact .inr ⟨u, .tail _ hu, he⟩

theorem size_indexed (table : List Transition) (final : Nat) :
    (indexed table final).size = largestState table final + 1 := by
  unfold indexed
  generalize largestState table final + 1 = n
  induction table with
  | nil => exact Array.size_replicate
  | cons t table ih => rw [List.foldr_cons, Array.size_modify, ih]

theorem getElem?_buckets {n s : Nat} (hs : s < n) (table : List Transition) :
    (table.foldr (fun t index => index.modify t.source (t :: ·)) (Array.replicate n []))[s]? =
      some (table.filter (·.source = s)) := by
  induction table with
  | nil => simp [hs]
  | cons t table ih =>
    rw [List.foldr_cons, Array.getElem?_modify, ih, List.filter_cons]
    by_cases h : t.source = s
    · simp [h]
    · simp [h]

def EpsilonsFirst (table : List Transition) : Prop :=
  table.Pairwise fun t u => t.source = u.source → t.isEpsilon = false → u.isEpsilon = false

theorem Fragment.Unmixed.epsilonsFirst {table : List Transition} (h : Fragment.Unmixed table) :
    EpsilonsFirst table := by
  refine h.imp ?_
  intro t u hboth hs he
  rw [(hboth hs).1] at he
  cases he

namespace Automaton

variable (a : Automaton)

theorem stateCount_eq : a.stateCount = largestState a.transitions a.final + 1 := by
  rw [stateCount, a.index_eq, size_indexed]

theorem outgoing_eq (s : Nat) : a.outgoing s = a.transitions.filter (·.source = s) := by
  by_cases hs : s < largestState a.transitions a.final + 1
  · rw [outgoing, a.index_eq, Array.getD_eq_getD_getElem?]
    exact congrArg (·.getD []) (getElem?_buckets hs a.transitions)
  · have hout : a.outgoing s = [] := by
      rw [← stateCount_eq] at hs
      unfold outgoing
      rw [Array.getD_eq_getD_getElem?, Array.getElem?_eq_none (Nat.le_of_not_lt hs)]
      rfl
    rw [hout, eq_comm, List.filter_eq_nil_iff]
    intro t ht he
    have := (endpoints_le_largestState ht a.final).1
    simp only [decide_eq_true_eq] at he
    omega

variable {a}

theorem mem_outgoing {t : Transition} {s : Nat} :
    t ∈ a.outgoing s ↔ t ∈ a.transitions ∧ t.source = s := by
  simp [outgoing_eq]

theorem outgoing_pairwise (h : Fragment.Unmixed a.transitions) (s : Nat) :
    (a.outgoing s).Pairwise fun t u => t.isEpsilon = true ∧ u.isEpsilon = true := by
  rw [outgoing_eq]
  have hs : ∀ t ∈ a.transitions.filter (·.source = s), t.source = s := by
    intro t ht
    simpa using (List.mem_filter.mp ht).2
  refine (h.sublist List.filter_sublist).imp_of_mem ?_
  intro t u ht hu h
  exact h ((hs t ht).trans (hs u hu).symm)

theorem isEpsilon_of_sibling (h : EpsilonsFirst a.transitions) {s : Nat} {t u : Transition}
    (hsub : [t, u].Sublist (a.outgoing s)) (ht : t.isEpsilon = false) : u.isEpsilon = false := by
  have hpair : [t, u].Sublist a.transitions := by
    rw [outgoing_eq] at hsub
    exact hsub.trans List.filter_sublist
  have hts := (mem_outgoing.mp (hsub.subset (.head _))).2
  have hus := (mem_outgoing.mp (hsub.subset (.tail _ (.head _)))).2
  exact List.pairwise_pair.mp (List.Pairwise.sublist hpair h) (hts.trans hus.symm) ht

end Automaton

end RegexNfa
